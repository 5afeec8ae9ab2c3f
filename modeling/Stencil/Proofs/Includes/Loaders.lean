import Stencil.Engine

/-!
Two ways to load files. Where they agree on the files that a template includes, on the files that
these include, and so on as deep as includes may go, the template is the same with either.
-/

namespace Stencil

/-- The loaders agree on the files, and on all that these include so many levels deep. -/
def Alike (tags : Tags) (load other : Loader) : (levels : Nat) → List Path → Prop
  | 0, _ => True
  | levels + 1, paths => ∀ path ∈ paths, load path = other path ∧
      ∀ text, load path = some text →
        Alike tags load other levels (Token.includeTargets tags path.toString text.toList)

namespace Alike

variable {tags : Tags} {load other : Loader} {levels : Nat} {paths : List Path}

theorem subset {fewer : List Path} (alike : Alike tags load other levels paths)
    (inside : fewer ⊆ paths) : Alike tags load other levels fewer := by
  cases levels with
  | zero => trivial
  | succ levels =>
      intro path member
      exact alike path (inside member)

theorem single {path : Path} (alike : Alike tags load other levels paths) (member : path ∈ paths) :
    Alike tags load other levels [path] :=
  alike.subset fun _ own => List.mem_singleton.mp own ▸ member

theorem of_each (each : ∀ path ∈ paths, Alike tags load other levels [path]) :
    Alike tags load other levels paths := by
  cases levels with
  | zero => trivial
  | succ levels =>
      intro path member
      exact each path member path List.mem_cons_self

end Alike

namespace Token

variable {tags : Tags} {load other : Loader} {file : String}
  {including otherwise : Path → Location → Except ScanError (List Token)}

theorem ofSegment_congr {segment : Segment} {location : Location}
    (same : ∀ inner, segment = .tag .include inner →
      including (includeTarget file inner) = otherwise (includeTarget file inner)) :
    ofSegment including file location segment = ofSegment otherwise file location segment := by
  match segment with
  | .plain text => rfl
  | .tag .expression inner => rfl
  | .tag .control inner => rfl
  | .tag .include inner => exact congrFun (same inner rfl) location

theorem ofSegments_congr {unclosed : Option TagKind} {cursor : Cursor} {segments : List Segment}
    (same : ∀ inner, .tag .include inner ∈ segments →
      including (includeTarget file inner) = otherwise (includeTarget file inner)) :
    ofSegments including tags file unclosed cursor segments =
      ofSegments otherwise tags file unclosed cursor segments := by
  induction segments generalizing cursor with
  | nil => rfl
  | cons segment segments ih =>
      have first : ofSegment including file (cursor.location file) segment =
          ofSegment otherwise file (cursor.location file) segment :=
        ofSegment_congr fun inner own => same inner (own ▸ List.mem_cons_self)
      rw [ofSegments, ofSegments, first, ih fun inner member => same inner (.tail _ member)]

theorem includeTarget_mem {source inner : List Char}
    (member : .tag .include inner ∈ (Segment.cut tags source).segments) :
    includeTarget file inner ∈ includeTargets tags file source :=
  List.mem_filterMap.mpr ⟨_, member, rfl⟩

theorem ofFile_congr {source : List Char}
    (same : ∀ path ∈ includeTargets tags file source, including path = otherwise path) :
    ofFile including tags file source = ofFile otherwise tags file source :=
  ofSegments_congr fun _ member => same _ (includeTarget_mem member)

theorem ofInclude_congr {levels : Nat} {stack : List Path} {path : Path}
    (alike : Alike tags load other levels [path]) :
    ofInclude tags load levels stack path = ofInclude tags other levels stack path := by
  induction levels generalizing stack path with
  | zero => rfl
  | succ levels ih =>
      funext location
      obtain ⟨same, inside⟩ := alike path List.mem_cons_self
      rw [ofInclude, ofInclude, ← same]
      cases loaded : load path with
      | none => rfl
      | some text =>
          have below : ofFile (ofInclude tags load levels (path :: stack)) tags path.toString
              text.toList = ofFile (ofInclude tags other levels (path :: stack)) tags path.toString
              text.toList :=
            ofFile_congr fun target member => ih ((inside text loaded).single member)
          simp only [below]

theorem scan_congr {source : String}
    (alike : Alike tags load other maxIncludeDepth (includeTargets tags file source.toList)) :
    scan tags load file source = scan tags other file source :=
  ofFile_congr fun _ member => ofInclude_congr (alike.single member)

end Token

variable {State : Type} {host : Host State} {context : Context} {load other : Loader}

theorem Template.compile_congr {tags : Tags} {name source : String}
    (alike : Alike tags load other maxIncludeDepth
      (Token.includeTargets tags name source.toList)) :
    compile tags load name source = compile tags other name source := by
  rw [compile, compile, Token.scan_congr alike]

theorem RepeatSpec.render_congr {tags : Tags} {spec : RepeatSpec} {path : Path} {template : Template}
    (alike : Alike tags load other maxIncludeDepth
      (Token.includeTargets tags (filenameLabel path) spec.filename.toList)) :
    spec.render host context tags load path template =
      spec.render host context tags other path template := by
  rw [render, render, Template.compile_congr alike]

end Stencil
