import Stencil.Engine
import Stencil.FileSet
import Stencil.Proofs.Diagnostics.Blocks
import Stencil.Proofs.Diagnostics.Faults
import Stencil.Proofs.Diagnostics.Tags
import Stencil.Proofs.Expr.Names

/-!
Every error of every stage points at a tag. The place of an error is carried along from the tag that
was scanned to the token, to the node and to the fault, so that the file that it names has a tag
there, and that tag is the one at fault.
-/

namespace Stencil

open Segment Token

variable {State : Type} {tags : Tags} {opening : Opening} {token : Token}

theorem Token.control?_eq_some {inner : List Char} {kind : TokenKind} {value : Option String}
    (said : control? inner = some (kind, value)) :
    (kind ≠ .plain ∧ kind ≠ .expression) ∧ (carriesText kind = true → ∃ text, value = some text) := by
  obtain ⟨⟨words, other⟩, member, found⟩ := List.exists_of_findSome?_eq_some said
  obtain ⟨rest, _, same⟩ := Option.map_eq_some_iff.mp found
  obtain ⟨rfl, rfl⟩ := Prod.mk.inj same
  constructor
  · constructor <;> rintro rfl <;> simp [keywords] at member
  · intro carries
    exact ⟨_, if_pos carries⟩

theorem Token.Opening.Says.control (spoken : opening.Says tags token) (word : token.kind ≠ .plain)
    (notOutput : token.kind ≠ .expression) :
    ∃ rest inner, TagAt tags .control inner rest ∧ control? inner = some token.content ∧
      opening.Locates token.location rest := by
  obtain ⟨place, segment, comes, said, same⟩ := spoken
  match segment with
  | .plain text => exact absurd (congrArg Prod.fst (Option.some.inj said)).symm word
  | .tag .expression inner => exact absurd (congrArg Prod.fst (Option.some.inj said)).symm notOutput
  | .tag .include inner => simp [content?] at said
  | .tag .control inner =>
      obtain ⟨rest, starts, located⟩ := Opening.ComesTo.locates_tag comes
      exact ⟨rest, inner, starts, said, same ▸ located⟩

theorem Token.Opening.Says.carrying (spoken : opening.Says tags token)
    (carries : carriesText token.kind = true) :
    ∃ rest inner, TagAt tags .control inner rest ∧
      control? inner = some (token.kind, some token.text) ∧ opening.Locates token.location rest := by
  have word : token.kind ≠ .plain := by
    intro plain
    simp [plain, carriesText] at carries
  have notOutput : token.kind ≠ .expression := by
    intro output
    simp [output, carriesText] at carries
  obtain ⟨rest, inner, starts, said, located⟩ := Opening.Says.control spoken word notOutput
  obtain ⟨text, value⟩ := (control?_eq_some said).2 carries
  refine ⟨rest, inner, starts, ?_, located⟩
  rw [said, Token.content, Token.text, value, Option.getD_some]

theorem Token.Opening.Says.expression (spoken : opening.Says tags token)
    (output : token.kind = .expression) :
    ∃ rest inner, TagAt tags .expression inner rest ∧
      token.text = String.ofList (Text.trim inner) ∧ opening.Locates token.location rest := by
  obtain ⟨place, segment, comes, said, same⟩ := spoken
  match segment with
  | .plain text =>
      have plain : TokenKind.plain = token.kind := congrArg Prod.fst (Option.some.inj said)
      simp [output] at plain
  | .tag .expression inner =>
      obtain ⟨rest, starts, located⟩ := Opening.ComesTo.locates_tag comes
      have value : some (String.ofList (Text.trim inner)) = token.value :=
        congrArg Prod.snd (Option.some.inj said)
      refine ⟨rest, inner, starts, ?_, same ▸ located⟩
      rw [Token.text, ← value, Option.getD_some]
  | .tag .include inner => simp [content?] at said
  | .tag .control inner => exact absurd output (control?_eq_some said).1.2

def BlockFault.IsAt (tags : Tags) (rest : List Char) (fault : BlockFault) : Prop :=
  ∃ inner said, TagAt tags .control inner rest ∧ control? inner = some said ∧ fault.Concerns said

theorem BlockFault.IsAt.opens {rest : List Char} {fault : BlockFault} (isAt : fault.IsAt tags rest) :
    ∃ kind, Opens tags kind rest := by
  obtain ⟨inner, said, starts, _⟩ := isAt
  exact ⟨.control, starts.opens⟩

theorem BlockError.Blames.locates {error : BlockError} (blames : error.Blames token)
    (spoken : opening.Says tags token) :
    ∃ rest, opening.Locates error.location rest ∧ error.fault.IsAt tags rest := by
  obtain ⟨place, concerns⟩ := blames
  obtain ⟨word, notOutput⟩ := concerns.control
  obtain ⟨rest, inner, starts, said, located⟩ := Opening.Says.control spoken word notOutput
  exact ⟨rest, place ▸ located, inner, token.content, starts, said, concerns⟩

/-- The expression of the tag that a text starts with: that of an expression tag, what a loop goes
through, or the condition of an `if` or of an `else if`. -/
inductive Expression.IsOfTag (tags : Tags) (rest : List Char) (expression : Expression) : Prop
  | output {inner} : TagAt tags .expression inner rest →
      expression.source = String.ofList (Text.trim inner) → IsOfTag tags rest expression
  | iterable {inner text variableName} : TagAt tags .control inner rest →
      control? inner = some (.forLoop, some text) →
      LoopHeader text variableName expression.source → IsOfTag tags rest expression
  | condition {inner kind} : TagAt tags .control inner rest →
      control? inner = some (kind, some expression.source) → kind = .ifBranch ∨ kind = .elseIf →
      IsOfTag tags rest expression

section Asking

variable {expression : Expression} (spoken : opening.Says tags token)

include spoken

theorem Token.Opening.Says.locates_output (output : token.kind = .expression)
    (source : expression.source = token.text) :
    ∃ rest, opening.Locates token.location rest ∧ expression.IsOfTag tags rest := by
  obtain ⟨rest, inner, starts, text, located⟩ := Opening.Says.expression spoken output
  exact ⟨rest, located, .output starts (source.trans text)⟩

theorem Token.Opening.Says.locates_iterable {variableName : String} (loop : token.kind = .forLoop)
    (header : LoopHeader token.text variableName expression.source) :
    ∃ rest, opening.Locates token.location rest ∧ expression.IsOfTag tags rest := by
  have carries : carriesText token.kind = true := by rw [loop]; rfl
  obtain ⟨rest, inner, starts, said, located⟩ := Opening.Says.carrying spoken carries
  exact ⟨rest, located, .iterable starts (loop ▸ said) header⟩

theorem Token.Opening.Says.locates_condition (branch : token.kind = .ifBranch ∨ token.kind = .elseIf)
    (source : expression.source = token.text) :
    ∃ rest, opening.Locates token.location rest ∧ expression.IsOfTag tags rest := by
  have carries : carriesText token.kind = true := by
    rcases branch with kind | kind <;> rw [kind] <;> rfl
  obtain ⟨rest, inner, starts, said, located⟩ := Opening.Says.carrying spoken carries
  exact ⟨rest, located, .condition starts (source ▸ said) branch⟩

end Asking

theorem Part.Keeps.locates {part : Part} {expression : Expression} {location : Location}
    (keeps : part.Keeps token) (asks : part.inquiry? = some (expression, location))
    (spoken : opening.Says tags token) :
    ∃ rest, opening.Locates location rest ∧ expression.IsOfTag tags rest := by
  cases part with
  | output own place =>
      obtain ⟨kind, source, rfl⟩ := keeps
      obtain ⟨rfl, rfl⟩ := Prod.mk.inj (Option.some.inj asks)
      exact Opening.Says.locates_output spoken kind.symm source
  | loopStart variableName own place =>
      obtain ⟨kind, header, rfl⟩ := keeps
      obtain ⟨rfl, rfl⟩ := Prod.mk.inj (Option.some.inj asks)
      exact Opening.Says.locates_iterable spoken kind.symm header
  | branchStart own place =>
      obtain ⟨kind, source, rfl⟩ := keeps
      obtain ⟨rfl, rfl⟩ := Prod.mk.inj (Option.some.inj asks)
      exact Opening.Says.locates_condition spoken (.inl kind.symm) source
  | elseIf own place =>
      obtain ⟨kind, source, rfl⟩ := keeps
      obtain ⟨rfl, rfl⟩ := Prod.mk.inj (Option.some.inj asks)
      exact Opening.Says.locates_condition spoken (.inr kind.symm) source
  | plain text => simp [Part.inquiry?] at asks
  | loopEnd => simp [Part.inquiry?] at asks
  | elseStart => simp [Part.inquiry?] at asks
  | branchEnd => simp [Part.inquiry?] at asks

theorem Expression.IsOfTag.opens {rest : List Char} {expression : Expression}
    (ofTag : expression.IsOfTag tags rest) : ∃ kind, Opens tags kind rest := by
  cases ofTag with
  | output starts _ => exact ⟨_, starts.opens⟩
  | iterable starts _ _ => exact ⟨_, starts.opens⟩
  | condition starts _ _ => exact ⟨_, starts.opens⟩

theorem Part.exists_keeps_of_mem {parts : List Part} {tokens : List Token} {part : Part}
    (keep : List.Forall₂ Part.Keeps parts tokens) (member : part ∈ parts) :
    ∃ token ∈ tokens, part.Keeps token := by
  induction keep with
  | nil => simp at member
  | @cons first token parts tokens keeps _ ih =>
      rcases List.mem_cons.mp member with rfl | later
      · exact ⟨token, List.mem_cons_self .., keeps⟩
      · obtain ⟨other, among, otherKeeps⟩ := ih later
        exact ⟨other, List.mem_cons_of_mem _ among, otherKeeps⟩

theorem exists_isOfTag_of_asked {load : Loader} {name source : String} {tokens : List Token}
    {template : Template} {inquiry : Inquiry State}
    (scanned : Token.scan tags load name source = .ok tokens)
    (parsed : Node.parse tokens = .ok template) (asked : inquiry.AskedBy (Node.allParts template)) :
    ∃ opening ∈ openingsOf tags load name source, ∃ rest,
      opening.Locates inquiry.location rest ∧ inquiry.expression.IsOfTag tags rest := by
  obtain ⟨items, rfl, rfl⟩ := parse_eq_ok_iff_items.mp parsed
  obtain ⟨part, member, asks⟩ := asked
  obtain ⟨token, among, keeps⟩ := Part.exists_keeps_of_mem (Item.keeps_allParts items) member
  obtain ⟨opening, opened, spoken⟩ := exists_opening_of_mem scanned among
  obtain ⟨rest, located, ofTag⟩ := keeps.locates asks spoken
  exact ⟨opening, opened, rest, located, ofTag⟩

/-- What is wrong where a rest of the text of an opened file starts: the tag there cannot be scanned,
or is a control tag out of place, or has an expression that has failed when rendering came to it. -/
def TemplateError.IsAt (engine : Engine) (host : Host State) (context : Context)
    (name source : String) (state : State) (opening : Opening) (rest : List Char) :
    TemplateError → Prop
  | .scan error => error.fault.IsAt engine.tags engine.load opening rest
  | .block error => error.fault.IsAt engine.tags rest
  | .render error => ∃ template inquiry, engine.compile name source = .ok template ∧
      Node.AllAsk host context state template inquiry ∧ inquiry.Fails host error ∧
      inquiry.expression.IsOfTag engine.tags rest

theorem Engine.renderText_fails {engine : Engine} {host : Host State} {context : Context}
    {name source : String} {state : State} {error : TemplateError}
    (failed : (engine.renderText host context name source state).1 = .error error) :
    engine.compile name source = .error error ∨
      ∃ template fault, engine.compile name source = .ok template ∧ error = .render fault ∧
        (Node.renderAll host context template state).1 = .error fault := by
  rw [Engine.renderText] at failed
  cases compiled : engine.compile name source with
  | error own =>
      rw [compiled] at failed
      exact .inl (congrArg Except.error (Except.error.inj failed))
  | ok template =>
      simp only [compiled] at failed
      rw [Template.render, Evaluation.adapt_run] at failed
      cases outcome : (Node.renderAll host context template state).1 with
      | ok text => simp [outcome, Except.mapError] at failed
      | error fault =>
          simp only [outcome, Except.mapError, Except.error.injEq] at failed
          exact .inr ⟨template, fault, rfl, failed.symm, outcome⟩

theorem Template.compile_eq_ok {load : Loader} {name source : String} {template : Template}
    (compiled : Template.compile tags load name source = .ok template) :
    ∃ tokens, Token.scan tags load name source = .ok tokens ∧ Node.parse tokens = .ok template := by
  rw [Template.compile] at compiled
  split at compiled
  · simp at compiled
  · rename_i tokens scanned
    cases parsed : Node.parse tokens with
    | error fault => simp [parsed, Except.mapError] at compiled
    | ok other =>
        simp only [parsed, Except.mapError, Except.ok.injEq] at compiled
        exact ⟨tokens, scanned, compiled ▸ parsed⟩

theorem Template.compile_eq_error {load : Loader} {name source : String} {error : TemplateError}
    (failed : Template.compile tags load name source = .error error) :
    (∃ fault, error = .scan fault ∧ Token.scan tags load name source = .error fault) ∨
      ∃ tokens fault, error = .block fault ∧ Token.scan tags load name source = .ok tokens ∧
        Node.parse tokens = .error fault := by
  rw [Template.compile] at failed
  split at failed
  · rename_i fault scanned
    exact .inl ⟨fault, (Except.error.inj failed).symm, scanned⟩
  · rename_i tokens scanned
    cases parsed : Node.parse tokens with
    | error fault =>
        simp only [parsed, Except.mapError, Except.error.injEq] at failed
        exact .inr ⟨tokens, fault, failed.symm, scanned, parsed⟩
    | ok other => simp [parsed, Except.mapError] at failed

/-- Where rendering fails in any stage, the location of the error names the template or an included
file, its line and column are the place of a tag in the text of that file, and its line text is that
line. The tag is the one at fault. -/
theorem renderText_error_isAt_tag (engine : Engine) (host : Host State) (context : Context)
    (name source : String) (state : State) (error : TemplateError)
    (failed : (engine.renderText host context name source state).1 = .error error) :
    ∃ opening ∈ openingsOf engine.tags engine.load name source,
      (opening.file = name ∧ opening.text = source.toList ∨
        ∃ path inside, engine.load path = some inside ∧ opening.file = path.toString ∧
          opening.text = inside.toList) ∧
      ∃ rest, error.location.file = opening.file ∧ error.location.PointsAt opening.text rest ∧
        (∃ kind, Opens engine.tags kind rest) ∧
        error.IsAt engine host context name source state opening rest := by
  obtain ⟨opening, opened, rest, located, opens, isAt⟩ :
      ∃ opening ∈ openingsOf engine.tags engine.load name source, ∃ rest,
        opening.Locates error.location rest ∧ (∃ kind, Opens engine.tags kind rest) ∧
          error.IsAt engine host context name source state opening rest := by
    rcases Engine.renderText_fails failed with refused | ⟨template, fault, compiled, rfl, rendered⟩
    · rcases Template.compile_eq_error refused with
        ⟨fault, rfl, scanned⟩ | ⟨tokens, fault, rfl, scanned, parsed⟩
      · obtain ⟨opening, opened, fails⟩ := exists_opening_of_error rfl scanned
        obtain ⟨rest, located, isAt⟩ := Opening.Fails.locates fails
        exact ⟨opening, opened, rest, located, isAt.opens, isAt⟩
      · obtain ⟨token, among, blames⟩ := Node.blamesSome_of_parse parsed
        obtain ⟨opening, opened, spoken⟩ := exists_opening_of_mem scanned among
        obtain ⟨rest, located, isAt⟩ := blames.locates spoken
        exact ⟨opening, opened, rest, located, isAt.opens, isAt⟩
    · obtain ⟨tokens, scanned, parsed⟩ := Template.compile_eq_ok compiled
      obtain ⟨inquiry, asks, fails⟩ := Node.exists_allAsk template context state fault rendered
      have asked := Node.AllAsk.askedBy template context state asks
      obtain ⟨opening, opened, rest, located, ofTag⟩ :=
        exists_isOfTag_of_asked scanned parsed asked
      have place : (TemplateError.render fault).location = inquiry.location := fails.1
      exact ⟨opening, opened, rest, place ▸ located, ofTag.opens, template, inquiry, compiled, asks,
        fails, ofTag⟩
  refine ⟨opening, opened, ?_, rest, located.file, located.place, opens, isAt⟩
  rcases loaded_of_mem_openings opened with rfl | ⟨path, below, inside, loaded, rfl⟩
  · exact .inl ⟨rfl, rfl⟩
  · exact .inr ⟨path, inside, loaded, rfl, rfl⟩

def missingInPart : FileSet :=
  FileSet.insert {} (.ofString "part") "first\r\n  [[ missing ]]\r\n"

/-- The name is not bound, in the second line of an included file. -/
theorem renderText_missing_in_part :
    ∃ error, (Engine.renderText { load := missingInPart.load } Host.none Context.empty "page"
        "\n[@ part @]" ()).1 = .error error ∧
      error.location = ⟨"part", 2, 3, "  [[ missing ]]"⟩ ∧
      ∃ opening ∈ openingsOf {} missingInPart.load "page" "\n[@ part @]",
        "part" = opening.file ∧
        ∃ rest, error.location.PointsAt opening.text rest ∧
          error.IsAt { load := missingInPart.load } Host.none Context.empty "page" "\n[@ part @]" ()
            opening rest := by
  have scanned : Token.scan {} missingInPart.load "page" "\n[@ part @]" = .ok
      [⟨.plain, some "\n", ⟨"page", 1, 1, ""⟩⟩,
        ⟨.plain, some "first\r\n  ", ⟨"part", 1, 1, "first"⟩⟩,
        ⟨.expression, some "missing", ⟨"part", 2, 3, "  [[ missing ]]"⟩⟩,
        ⟨.plain, some "\r\n", ⟨"part", 2, 16, "  [[ missing ]]"⟩⟩] :=
    Outcome.eq_ok_of_toOption (by decide +kernel)
  have read : Expr.compile "missing" = .ok (.var "missing") :=
    Expr.compile_name (by decide) (by decide)
  have failed : (Engine.renderText { load := missingInPart.load } Host.none Context.empty "page"
      "\n[@ part @]" ()).1 =
        .error (.render ⟨.unbound "missing", ⟨"part", 2, 3, "  [[ missing ]]"⟩⟩) := by
    rw [Engine.renderText, Engine.compile, Template.compile, scanned]
    simp only [Node.parse_eq_ofTokens, Node.ofTokens_plain, Node.ofTokens_output, Node.ofTokens_nil,
      Token.text, Option.getD_some, Expression.ofSource_eq read]
    rfl
  obtain ⟨opening, opened, _, rest, file, place, _, isAt⟩ :=
    renderText_error_isAt_tag { load := missingInPart.load } Host.none Context.empty "page"
      "\n[@ part @]" () _ failed
  exact ⟨_, failed, rfl, opening, opened, file, rest, place, isAt⟩

end Stencil
