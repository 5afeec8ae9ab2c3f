import Stencil.Node.Render
import Stencil.Proofs.Blocks.Letters

/-!
Rendering does not see how plain text is divided into nodes: a tree and the same tree in letters
give the same output, or the same fault.
-/

namespace Stencil

variable {State Failure Fault α β : Type}

def RenderError.unplaced (error : RenderError) : RenderError := ⟨error.fault, default⟩

namespace Evaluation

theorem adapt_pure (change : Failure → Fault) (value : α) :
    (pure value : Evaluation State Failure α).adapt change = pure value := rfl

theorem adapt_throw (change : Failure → Fault) (failure : Failure) :
    (throw failure : Evaluation State Failure α).adapt change = throw (change failure) := rfl

theorem bind_run (step : Evaluation State Failure α) (next : α → Evaluation State Failure β)
    (state : State) :
    (step >>= next) state =
      match step state with
      | (.ok value, later) => next value later
      | (.error failure, later) => (.error failure, later) := by
  show (ExceptT.bindCont next (step state).1) (step state).2 = _
  rcases step state with ⟨outcome, later⟩
  cases outcome <;> rfl

theorem adapt_run (change : Failure → Fault) (step : Evaluation State Failure α) (state : State) :
    (step.adapt change) state = ((step state).1.mapError change, (step state).2) := rfl

theorem adapt_bind (change : Failure → Fault) (step : Evaluation State Failure α)
    (next : α → Evaluation State Failure β) :
    (step >>= next).adapt change =
      step.adapt change >>= fun value => (next value).adapt change := by
  funext state
  rw [adapt_run, bind_run, bind_run, adapt_run]
  rcases step state with ⟨outcome, later⟩
  cases outcome <;> rfl

theorem adapt_adapt {Cause : Type} (first : Failure → Fault) (second : Fault → Cause)
    (step : Evaluation State Failure α) :
    (step.adapt first).adapt second = step.adapt (second ∘ first) := by
  funext state
  rw [adapt_run, adapt_run, adapt_run]
  rcases step state with ⟨outcome, later⟩
  cases outcome <;> rfl

theorem adapt_ite (change : Failure → Fault) (condition : Prop) [Decidable condition]
    (first second : Evaluation State Failure α) :
    (if condition then first else second).adapt change =
      if condition then first.adapt change else second.adapt change :=
  apply_ite _ _ _ _

theorem adapt_mapM {Item : Type} (change : Failure → Fault) (items : List Item)
    (step : Item → Evaluation State Failure α) :
    (items.mapM step).adapt change = items.mapM fun item => (step item).adapt change := by
  induction items with
  | nil => rfl
  | cons item items ih =>
      simp only [List.mapM_cons, adapt_bind, ih, adapt_pure]

end Evaluation

namespace Node

open Evaluation

variable (host : Host State) (context : Context)

theorem renderAll_append (nodes others : List Node) :
    renderAll host context (nodes ++ others) = do
      let front ← renderAll host context nodes
      let back ← renderAll host context others
      return front ++ back := by
  induction nodes with
  | nil => simp only [List.nil_append, renderAll, pure_bind, String.empty_append, bind_pure]
  | cons node nodes ih =>
      simp only [List.cons_append, renderAll, ih, bind_assoc, pure_bind, String.append_assoc]

theorem renderAll_letters (text : List Char) :
    renderAll host context (text.map fun letter => .plain (String.singleton letter)) =
      pure (String.ofList text) := by
  induction text with
  | nil => simp [renderAll]
  | cons letter text ih =>
      simp only [List.map_cons, renderAll, render, ih, pure_bind]
      rw [String.singleton_eq_ofList, ← String.ofList_append]
      rfl

theorem evalAt_unplaced (expression : Expression) (location other : Location) :
    (expression.evalAt host context location).adapt RenderError.unplaced =
      (expression.evalAt host context other).adapt RenderError.unplaced := by
  simp only [Expression.evalAt, adapt_adapt]
  rfl

mutual

theorem render_scatter (context : Context) : (node : Node) →
    (renderAll host context node.scatter).adapt RenderError.unplaced =
      (render host context node).adapt RenderError.unplaced
  | .plain text => by
      rw [scatter, renderAll_letters, String.ofList_toList, render]
  | .output expression location => by
      have placed := evalAt_unplaced host context expression default location
      simp only [scatter, renderAll, render, adapt_bind, placed, pure_bind, adapt_pure, bind_assoc,
        String.append_empty]
  | .forLoop variableName iterable body location => by
      have placed := evalAt_unplaced host context iterable default location
      have bodies (item : Value) :=
        renderAll_scatterAll (context.child variableName item) body
      simp only [scatter, renderAll, render, adapt_bind, adapt_mapM, placed, bodies, pure_bind,
        adapt_pure, bind_assoc, String.append_empty]
  | .ifBranch condition body alternatives location => by
      have placed := evalAt_unplaced host context condition default location
      have bodies := renderAll_scatterAll context body
      have others := renderAlternatives_scatter context alternatives
      simp only [scatter, renderAll, render, adapt_bind, adapt_ite, placed, bodies, others, pure_bind,
        String.append_empty, bind_pure]

theorem renderAll_scatterAll (context : Context) : (nodes : List Node) →
    (renderAll host context (scatterAll nodes)).adapt RenderError.unplaced =
      (renderAll host context nodes).adapt RenderError.unplaced
  | [] => rfl
  | node :: nodes => by
      have first := render_scatter context node
      have later := renderAll_scatterAll context nodes
      simp only [scatterAll, renderAll_append, renderAll, adapt_bind, first, later, adapt_pure]

theorem renderAlternatives_scatter (context : Context) : (alternatives : Alternatives) →
    (renderAlternatives host context alternatives.scatter).adapt RenderError.unplaced =
      (renderAlternatives host context alternatives).adapt RenderError.unplaced
  | .none => rfl
  | .elseBranch body => by
      rw [Alternatives.scatter, renderAlternatives, renderAlternatives,
        renderAll_scatterAll context body]
  | .elseIf condition body alternatives location => by
      have placed := evalAt_unplaced host context condition default location
      have bodies := renderAll_scatterAll context body
      have others := renderAlternatives_scatter context alternatives
      simp only [Alternatives.scatter, renderAlternatives, adapt_bind, adapt_ite, placed, bodies,
        others]

end

end Node

end Stencil
