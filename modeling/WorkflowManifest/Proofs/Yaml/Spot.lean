import WorkflowManifest.Proofs.Json.Shell
import WorkflowManifest.Proofs.Yaml.Reader

/-!
Where a value stands in a block text. The text around a place is the same whatever stands in it,
and the line after it is set in no further than the key or mark that the place belongs to.
-/

namespace WorkflowManifest.Yaml

open Json (Shell wrapAll)

inductive Spot where
  | under (indent : Nat)
  | beside (indent : Nat)

namespace Spot

def indent : Spot → Nat
  | .under indent => indent
  | .beside indent => indent

def write : Spot → Json → List Char
  | .under indent => underKey indent
  | .beside indent => besideMark indent

def ofKey (indent : Nat) (key : String) : Spot :=
  if isSimpleKey key then .under indent else .beside indent

@[simp] theorem indent_ofKey (indent : Nat) (key : String) : (ofKey indent key).indent = indent := by
  unfold ofKey
  split <;> rfl

def dashes : Spot → Nat
  | .under indent => indent
  | .beside indent => indent + step

def inner (spot : Spot) : Shell → Spot
  | .item _ _ => .beside spot.dashes
  | .entry _ key _ => .ofKey (spot.indent + step) key

end Spot

theorem exists_cons {α : Type} (xs : List α) (x : α) (ys : List α) :
    ∃ z zs, xs ++ x :: ys = z :: zs := by
  cases xs <;> exact ⟨_, _, rfl⟩

section Around

variable {α β : Type} {m n p : Nat}

/-- The outer text is the inner one between two others that are always the same. Behind it stands a
line of column `n` at most, if one of column `m` at most stands behind the outer text. -/
def Around (m : Nat) (outer : α → List Char) (n : Nat) (inner : α → List Char) : Prop :=
  ∃ before after, (∀ x, outer x = before ++ inner x ++ after) ∧
    ∀ rest, Outside (m + 1) rest → Outside (n + 1) (after ++ rest)

namespace Around

variable {outer middle inner : α → List Char}

theorem trans (h : Around m outer n middle) (h' : Around n middle p inner) :
    Around m outer p inner := by
  obtain ⟨before, after, houter, hafter⟩ := h
  obtain ⟨before', after', hmiddle, hafter'⟩ := h'
  refine ⟨before ++ before', after' ++ after, fun x => ?_, fun rest hrest => ?_⟩
  · rw [houter, hmiddle]
    simp
  · rw [List.append_assoc]
    exact hafter' _ (hafter rest hrest)

theorem last (h : m ≤ n) (before : List Char) (houter : ∀ x, outer x = before ++ inner x) :
    Around m outer n inner := by
  refine ⟨before, [], fun x => ?_, fun rest hrest => ?_⟩
  · rw [houter, List.append_nil]
  · exact hrest.mono (by omega)

theorem comp (h : Around m outer n inner) (f : β → α) :
    Around m (fun x => outer (f x)) n fun x => inner (f x) := by
  obtain ⟨before, after, houter, hafter⟩ := h
  exact ⟨before, after, fun x => houter (f x), hafter⟩

end Around

theorem around_items (h : m ≤ n) (xs ys : List Json) :
    Around m (fun x => itemChars n (xs ++ x :: ys)) n (besideMark n) := by
  have hlast : Around m (fun x => itemChars n (x :: ys)) n (besideMark n) := by
    cases ys with
    | nil => exact .last h ['-'] (itemChars_singleton n)
    | cons y ys =>
      refine ⟨['-'], spaces n ++ itemChars n (y :: ys), fun x => ?_, fun rest _ => ?_⟩
      · dsimp only
        rw [itemChars_cons_cons]
        simp
      · rw [itemChars, List.append_assoc, List.cons_append, List.cons_append]
        exact .line (Nat.lt_succ_self n) rfl _
  induction xs with
  | nil => exact hlast
  | cons w xs ih =>
    obtain ⟨before, after, houter, hafter⟩ := ih
    refine ⟨'-' :: besideMark n w ++ spaces n ++ before, after, fun x => ?_, hafter⟩
    dsimp only at houter ⊢
    rw [List.cons_append, itemChars, houter]
    simp

theorem around_entry (h : m ≤ n) (es fs : List (String × Json)) :
    Around m (fun e => entryChars n (es ++ e :: fs)) n fun e => entryChars n [e] := by
  have hlast : Around m (fun e => entryChars n (e :: fs)) n fun e => entryChars n [e] := by
    cases fs with
    | nil => exact .last h [] fun _ => rfl
    | cons f fs =>
      refine ⟨[], spaces n ++ entryChars n (f :: fs), fun e => ?_, fun rest _ => ?_⟩
      · dsimp only
        rw [entryChars_cons_cons, List.nil_append]
      · rw [List.append_assoc]
        exact outside_entryChars (Nat.lt_succ_self n) f fs rest
  induction es with
  | nil => exact hlast
  | cons d es ih =>
    obtain ⟨before, after, houter, hafter⟩ := ih
    refine ⟨entryChars n [d] ++ spaces n ++ before, after, fun e => ?_, hafter⟩
    obtain ⟨g, gs, hgs⟩ := exists_cons es e fs
    dsimp only at houter ⊢
    rw [List.cons_append, hgs, entryChars_cons_cons, ← hgs, houter]
    simp

theorem around_value (n : Nat) (key : String) :
    Around n (fun x => entryChars n [(key, x)]) n (Spot.ofKey n key).write := by
  unfold Spot.ofKey
  split
  next hk =>
    refine .last (Nat.le_refl n) (scalarChars (n + step) key.toList ++ [':']) fun x => ?_
    rw [entryChars_simple hk, Spot.write, List.append_assoc]
    rfl
  next hk =>
    refine .last (Nat.le_refl n)
      ('?' :: ' ' :: (scalarLines (n + step) key ++ (spaces n ++ [':']))) fun x => ?_
    rw [entryChars_marked (by simpa using hk), Spot.write]
    simp

theorem around_values (h : m ≤ n) (es : List (String × Json)) (key : String)
    (fs : List (String × Json)) :
    Around m (fun x => entryChars n (es ++ (key, x) :: fs)) n (Spot.ofKey n key).write :=
  ((around_entry h es fs).comp fun x => (key, x)).trans (around_value n key)

end Around

section Wrapped

theorem around_map (spot : Spot) (es fs : List (String × Json)) :
    Around spot.indent (fun e => spot.write (.obj (es ++ e :: fs))) (spot.indent + step)
      fun e => entryChars (spot.indent + step) [e] := by
  have hmap (e : String × Json) : spot.write (.obj (es ++ e :: fs)) =
      (match spot with
        | .under indent => '\n' :: spaces (indent + step)
        | .beside _ => [' ']) ++ entryChars (spot.indent + step) (es ++ e :: fs) := by
    obtain ⟨g, gs, hgs⟩ := exists_cons es e fs
    rw [hgs]
    cases spot <;> rfl
  exact (Around.last (Nat.le_refl _) _ hmap).trans (around_entry (Nat.le_add_right _ _) es fs)

theorem around_wrap (spot : Spot) (s : Shell) :
    Around spot.indent (fun x => spot.write (s.wrap x)) (spot.inner s).indent
      (spot.inner s).write := by
  cases s with
  | item xs ys =>
    have hlist (x : Json) : spot.write (.arr (xs ++ x :: ys)) =
        (match spot with
          | .under indent => '\n' :: spaces indent
          | .beside _ => [' ']) ++ itemChars spot.dashes (xs ++ x :: ys) := by
      obtain ⟨g, gs, hgs⟩ := exists_cons xs x ys
      rw [hgs]
      cases spot <;> rfl
    have hle : spot.indent ≤ spot.dashes := by
      cases spot <;> simp [Spot.indent, Spot.dashes]
    exact (Around.last (Nat.le_refl _) _ hlist).trans (around_items hle xs ys)
  | entry es key fs =>
    have hvalue := around_value (spot.indent + step) key
    rw [Spot.inner, Spot.indent_ofKey]
    exact ((around_map spot es fs).comp fun x => (key, x)).trans hvalue

theorem around_wrapAll (spot : Spot) (shells : List Shell) :
    ∃ inner : Spot,
      Around spot.indent (fun x => spot.write (wrapAll shells x)) inner.indent inner.write := by
  induction shells generalizing spot with
  | nil => exact ⟨spot, .last (Nat.le_refl _) [] fun _ => rfl⟩
  | cons s shells ih =>
    obtain ⟨inner, hinner⟩ := ih (spot.inner s)
    exact ⟨inner, ((around_wrap spot s).comp (wrapAll shells)).trans hinner⟩

end Wrapped

end WorkflowManifest.Yaml
