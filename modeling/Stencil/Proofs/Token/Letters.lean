import Stencil.Proofs.Token.Contents

/-!
Plain text letter by letter. Sequences of contents that are the same in letters differ only in how
plain text is divided between tokens, so that merging what stands side by side makes them the same.
-/

namespace Stencil.Token

def letters (content : TokenKind × Option String) : List (TokenKind × Option String) :=
  match content with
  | (.plain, text) =>
      (text.getD "").toList.map fun letter => (.plain, some (String.singleton letter))
  | content => [content]

def spread (contents : List (TokenKind × Option String)) : List (TokenKind × Option String) :=
  contents.flatMap letters

@[simp] theorem spread_nil : spread [] = [] := rfl

@[simp] theorem spread_cons (content : TokenKind × Option String)
    (contents : List (TokenKind × Option String)) :
    spread (content :: contents) = letters content ++ spread contents := by
  simp [spread]

@[simp] theorem spread_append (contents others : List (TokenKind × Option String)) :
    spread (contents ++ others) = spread contents ++ spread others := by
  simp [spread]

theorem letters_plain (text other : String) :
    letters (.plain, some (text ++ other)) =
      letters (.plain, some text) ++ letters (.plain, some other) := by
  simp [letters]

def prependText (text : String) (contents : List (TokenKind × Option String)) :
    List (TokenKind × Option String) :=
  if text = "" then contents
  else
    match contents with
    | (.plain, other) :: contents => (.plain, some (text ++ other.getD "")) :: contents
    | contents => (.plain, some text) :: contents

def mergePlain : List (TokenKind × Option String) → List (TokenKind × Option String)
  | [] => []
  | (.plain, text) :: contents => prependText (text.getD "") (mergePlain contents)
  | content :: contents => content :: mergePlain contents

theorem prependText_append (text other : String) (contents : List (TokenKind × Option String)) :
    prependText (text ++ other) contents = prependText text (prependText other contents) := by
  by_cases noText : text = ""
  · simp [prependText, noText]
  · by_cases noOther : other = ""
    · simp [prependText, noOther]
    · have filled : text ++ other ≠ "" := by simp [noText]
      cases contents with
      | nil => simp [prependText, noText, noOther, filled]
      | cons content contents =>
          obtain ⟨kind, said⟩ := content
          cases kind <;> simp [prependText, noText, noOther, filled, String.append_assoc]

theorem mergePlain_singletons (text : List Char) (contents : List (TokenKind × Option String)) :
    mergePlain (text.map (fun letter => (.plain, some (String.singleton letter))) ++ contents) =
      prependText (String.ofList text) (mergePlain contents) := by
  induction text with
  | nil => simp [prependText]
  | cons letter text ih =>
      have front : String.ofList (letter :: text) =
          String.singleton letter ++ String.ofList text := by
        rw [String.singleton_eq_ofList, ← String.ofList_append]
        rfl
      rw [List.map_cons, List.cons_append, mergePlain, ih, front, prependText_append]
      rfl

theorem mergePlain_letters (content : TokenKind × Option String)
    (contents : List (TokenKind × Option String)) :
    mergePlain (letters content ++ contents) = mergePlain (content :: contents) := by
  obtain ⟨kind, text⟩ := content
  cases kind with
  | plain =>
      rw [letters, mergePlain_singletons, String.ofList_toList, mergePlain]
  | _ => rfl

theorem mergePlain_congr (content : TokenKind × Option String)
    {contents others : List (TokenKind × Option String)}
    (same : mergePlain contents = mergePlain others) :
    mergePlain (content :: contents) = mergePlain (content :: others) := by
  obtain ⟨kind, text⟩ := content
  cases kind with
  | plain => simp only [mergePlain, same]
  | _ => simp only [mergePlain, same]

theorem mergePlain_spread (contents : List (TokenKind × Option String)) :
    mergePlain (spread contents) = mergePlain contents := by
  induction contents with
  | nil => rfl
  | cons content contents ih =>
      rw [spread_cons, mergePlain_letters]
      exact mergePlain_congr content ih

end Stencil.Token

namespace Stencil.Segment

open Token

theorem spread_glue (answer : Path → Option (List (TokenKind × Option String))) (file : String)
    (segment : Segment) (segments : List Segment) :
    (allSay? answer file (glue segment segments)).map spread =
      (allSay? answer file (segment :: segments)).map spread := by
  unfold glue
  split
  · rename_i text other segments
    simp only [allSay?, says?, content?, Option.map_some, Option.bind_some]
    cases allSay? answer file segments with
    | none => rfl
    | some back => simp [String.ofList_append, letters_plain]
  · rfl

theorem spread_fuse (answer : Path → Option (List (TokenKind × Option String))) (file : String)
    (segments : List Segment) :
    (allSay? answer file (fuse segments)).map spread =
      (allSay? answer file segments).map spread := by
  induction segments with
  | nil => rfl
  | cons segment segments ih =>
      rw [fuse, List.foldr_cons, spread_glue, ← fuse, allSay?, allSay?]
      cases segment.says? answer file with
      | none => rfl
      | some front =>
          have parts : spread ∘ (front ++ ·) = (spread front ++ ·) ∘ spread := by
            funext back
            simp
          simp only [Option.bind_some, Option.map_map, parts]
          rw [← Option.map_map, ih, Option.map_map]

end Stencil.Segment
