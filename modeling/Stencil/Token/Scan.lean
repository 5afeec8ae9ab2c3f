import Stencil.Path
import Stencil.Token.Cursor
import Stencil.Token.Keyword
import Stencil.Token.Segment

/-!
Tokens from template sources. An include tag stands for the tokens of the file it names, which is
found relative to the file that holds the tag; files may include files to a fixed depth, but none
of the files that are being read.
-/

namespace Stencil

inductive ScanFault where
  | unclosed (kind : TagKind) (stop : String)
  | unknownControl
  | circular (path : Path)
  | tooDeep
  | unreadable (path : Path)

def maxIncludeDepth : Nat := 64

namespace ScanFault

def message : ScanFault → String
  | .unclosed kind stop => "could not find " ++ kind.text ++ " end tag " ++ stop
  | .unknownControl => "invalid control tag type"
  | .circular path => "circular include of '" ++ path.toString ++ "'"
  | .tooDeep => "include depth limit of " ++ toString maxIncludeDepth ++ " exceeded"
  | .unreadable path => "could not open file '" ++ path.toString ++ "'"

end ScanFault

structure ScanError where
  fault : ScanFault
  location : Location

abbrev Loader := Path → Option String

namespace Token

def includeTarget (file : String) (inner : List Char) : Path :=
  ((Path.ofString file).directory.join ⟨Text.trim inner⟩).normalize

def ofSegment (including : Path → Location → Except ScanError (List Token)) (file : String)
    (location : Location) : Segment → Except ScanError (List Token)
  | .plain text => .ok [⟨.plain, some (String.ofList text), location⟩]
  | .tag .expression inner =>
      .ok [⟨.expression, some (String.ofList (Text.trim inner)), location⟩]
  | .tag .control inner =>
      match control? inner with
      | some (kind, value) => .ok [⟨kind, value, location⟩]
      | none => .error ⟨.unknownControl, location⟩
  | .tag .include inner => including (includeTarget file inner) location

/-- The tokens of the segments of a file from a cursor on. A tag that is never closed is at fault
only when everything before it has been read. -/
def ofSegments (including : Path → Location → Except ScanError (List Token)) (tags : Tags)
    (file : String) (unclosed : Option TagKind) :
    Cursor → List Segment → Except ScanError (List Token)
  | cursor, [] =>
      match unclosed with
      | none => .ok []
      | some kind =>
          .error ⟨.unclosed kind (String.ofList (tags.stop kind)), cursor.location file⟩
  | cursor, segment :: segments => do
      let front ← ofSegment including file (cursor.location file) segment
      let back ← ofSegments including tags file unclosed
        (cursor.advance (segment.source tags).length) segments
      return front ++ back

def ofFile (including : Path → Location → Except ScanError (List Token)) (tags : Tags)
    (file : String) (source : List Char) : Except ScanError (List Token) :=
  let cut := Segment.cut tags source
  ofSegments including tags file cut.unclosed (.ofSource source) cut.segments

def ofInclude (tags : Tags) (load : Loader) :
    (levels : Nat) → (stack : List Path) → Path → Location → Except ScanError (List Token)
  | 0, stack, path, location =>
      if path ∈ stack then .error ⟨.circular path, location⟩ else .error ⟨.tooDeep, location⟩
  | levels + 1, stack, path, location =>
      if path ∈ stack then .error ⟨.circular path, location⟩
      else
        match load path with
        | none => .error ⟨.unreadable path, location⟩
        | some text =>
            ofFile (ofInclude tags load levels (path :: stack)) tags path.toString text.toList

def scan (tags : Tags) (load : Loader) (name source : String) : Except ScanError (List Token) :=
  ofFile (ofInclude tags load maxIncludeDepth [(Path.ofString name).normalize]) tags name
    source.toList

def includeTargets (tags : Tags) (file : String) (source : List Char) : List Path :=
  (Segment.cut tags source).segments.filterMap fun segment =>
    match segment with
    | .tag .include inner => some (includeTarget file inner)
    | _ => none

end Token

end Stencil
