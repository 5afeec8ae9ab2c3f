import Mathlib.Data.List.Infix
import Stencil.Engine
import Stencil.FileSet
import Stencil.Proofs.Render.Letters
import Stencil.Proofs.Token.Inlining

/-!
Including a file does the same as writing its text out in place of the tag: templates that are
scanned into the same contents, up to how plain text is divided, render alike.
-/

namespace Stencil

def TemplateError.unplaced : TemplateError → TemplateError
  | .scan error => .scan ⟨error.fault, default⟩
  | .block error => .block ⟨error.fault, default⟩
  | .render error => .render error.unplaced

namespace Template

variable {State : Type} (host : Host State) (context : Context)

theorem render_eq_of_scatterAll {template other : Template}
    (same : Node.scatterAll template = Node.scatterAll other) :
    (render host context template).adapt TemplateError.unplaced =
      (render host context other).adapt TemplateError.unplaced := by
  have outputs : (Node.renderAll host context template).adapt RenderError.unplaced =
      (Node.renderAll host context other).adapt RenderError.unplaced := by
    have scattered := Node.renderAll_scatterAll host context template
    rw [same, Node.renderAll_scatterAll] at scattered
    exact scattered.symm
  have placed (nodes : List Node) : (render host context nodes).adapt TemplateError.unplaced =
      ((Node.renderAll host context nodes).adapt RenderError.unplaced).adapt TemplateError.render := by
    simp only [render, Evaluation.adapt_adapt]
    rfl
  rw [placed, placed, outputs]

end Template

theorem Engine.renderText_eq_of_spread (engine : Engine) {State : Type} (host : Host State)
    (context : Context) {name source other : String} {tokens others : List Token}
    (scanned : Token.scan engine.tags engine.load name source = .ok tokens)
    (otherScanned : Token.scan engine.tags engine.load name other = .ok others)
    (same : Token.spread (tokens.map Token.content) = Token.spread (others.map Token.content)) :
    (engine.renderText host context name source).adapt TemplateError.unplaced =
      (engine.renderText host context name other).adapt TemplateError.unplaced := by
  have trees := Node.recast_parse_eq same
  simp only [renderText, compile, Template.compile, scanned, otherScanned]
  cases parsed : Node.parse tokens with
  | error error =>
      cases otherParsed : Node.parse others with
      | error otherError =>
          simp only [parsed, otherParsed, Node.recast, Except.error.injEq, BlockError.mk.injEq,
            and_true] at trees
          simp only [Except.mapError, Evaluation.adapt_throw, TemplateError.unplaced, trees]
      | ok nodes => simp [parsed, otherParsed, Node.recast] at trees
  | ok nodes =>
      cases otherParsed : Node.parse others with
      | error error => simp [parsed, otherParsed, Node.recast] at trees
      | ok otherNodes =>
          simp only [parsed, otherParsed, Node.recast, Except.ok.injEq] at trees
          exact Template.render_eq_of_scatterAll host context trees

/-- An include tag and the text of the file that it names are scanned into the same contents, and
the templates render alike, when the file includes nothing and no start delimiter reaches over one
of its ends. -/
theorem renderText_inlined_include (engine : Engine) (name file : String)
    (front inner rest : List Char) (tokens : List Token)
    (reached : Segment.IncludeAt engine.tags front inner rest)
    (loaded : engine.load (Token.includeTarget name inner) = some file)
    (leaf : ¬ engine.tags.start .include <:+: file.toList)
    (frontApart : ∀ kind, ¬ Text.Crosses (engine.tags.start kind)
      (front ++ (file.toList ++ rest)) front.length)
    (backApart : ∀ kind, ¬ Text.Crosses (engine.tags.start kind)
      (front ++ (file.toList ++ rest)) (front ++ file.toList).length)
    (scanned : Token.scan engine.tags engine.load name
      (String.ofList (front ++ ((Segment.tag .include inner).source engine.tags ++ rest))) =
        .ok tokens) :
    (∃ inlined, Token.scan engine.tags engine.load name
        (String.ofList (front ++ (file.toList ++ rest))) = .ok inlined ∧
      Token.mergePlain (inlined.map Token.content) = Token.mergePlain (tokens.map Token.content)) ∧
    ∀ (State : Type) (host : Host State) (context : Context),
      (engine.renderText host context name
        (String.ofList (front ++ ((Segment.tag .include inner).source engine.tags ++ rest)))).adapt
          TemplateError.unplaced =
      (engine.renderText host context name
        (String.ofList (front ++ (file.toList ++ rest)))).adapt TemplateError.unplaced := by
  obtain ⟨inlined, read, same⟩ :=
    Token.exists_scan_inlined reached loaded leaf frontApart backApart scanned
  refine ⟨⟨inlined, read, ?_⟩, ?_⟩
  · rw [← Token.mergePlain_spread, same, Token.mergePlain_spread]
  · intro State host context
    exact engine.renderText_eq_of_spread host context scanned read same.symm

def loopOpener (tags : Tags) : Engine where
  tags
  load := (FileSet.insert {} (.ofString "f") "[! for v in vs !]x").load

theorem renderText_inlined_loopOpener :
    (∃ inlined, Token.scan {} (loopOpener {}).load "page" "<[! for v in vs !]xy[! efor !]" =
      .ok inlined) ∧
    ∀ (State : Type) (host : Host State) (context : Context),
      ((loopOpener {}).renderText host context "page" "<[@ f @]y[! efor !]").adapt
          TemplateError.unplaced =
        ((loopOpener {}).renderText host context "page" "<[! for v in vs !]xy[! efor !]").adapt
          TemplateError.unplaced := by
  have reached : Segment.IncludeAt {} ['<'] " f ".toList "y[! efor !]".toList := by
    refine ⟨[.plain ['<']], rfl, ?_, .singleton _, ?_⟩
    · simp [Segment.Covers, Segment.Fits, Text.Avoids, TagKind.forall_iff, Tags.start, Tags.stop,
        Segment.source]
    · simp [Segment.Fits, Segment.Opens, Text.Avoids, TagKind.forall_iff, Tags.start, Tags.stop,
        Segment.source]
      decide
  have read : (Token.scan {} (loopOpener {}).load "page" "<[@ f @]y[! efor !]").toOption.isSome := by
    decide +kernel
  obtain ⟨tokens, scanned⟩ : ∃ tokens,
      Token.scan {} (loopOpener {}).load "page" "<[@ f @]y[! efor !]" = .ok tokens := by
    cases outcome : Token.scan {} (loopOpener {}).load "page" "<[@ f @]y[! efor !]" with
    | error error => simp [outcome, Except.toOption] at read
    | ok tokens => exact ⟨tokens, rfl⟩
  have inlines := renderText_inlined_include (loopOpener {}) "page" "[! for v in vs !]x" ['<']
    " f ".toList "y[! efor !]".toList tokens reached (by decide +kernel) (by decide)
    (TagKind.forall_iff.mpr (by decide)) (TagKind.forall_iff.mpr (by decide)) scanned
  obtain ⟨⟨inlined, inlinedRead, _⟩, renders⟩ := inlines
  exact ⟨⟨inlined, inlinedRead⟩, renders⟩

end Stencil
