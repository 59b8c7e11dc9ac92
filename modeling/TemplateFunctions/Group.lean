import TemplateFunctions.Text.Basic

/-!
Balanced groups: the parenthesised text after the name of a directive.

A group opens with `(` and closes at the first `)` that brings the count of open parentheses back to
zero. Inside a string in single or double quotes parentheses do not count, a backslash hides the
character after it, and only the quote that opened the string closes it.

* `Group.interior?`: the text between the two outer parentheses, and what follows the group.
* `Group.scan_append`: the scanned text is the interior, the closing `)` and the rest.
* `Group.unwrap`: the text without one outer pair of parentheses.
-/

namespace TemplateFunctions

namespace Group

/-! ### Quoted stretches -/

/-- Where a scan stands: outside strings, in a string that `quote` opened, or there behind a
backslash. -/
inductive Mode where
  | plain
  | quoted (quote : Char)
  | escaped (quote : Char)
  deriving DecidableEq, Repr

/-- The mode after one more character. -/
def Mode.next : Mode → Char → Mode
  | .plain, c => if c = '\'' ∨ c = '"' then .quoted c else .plain
  | .quoted q, c => if c = '\\' then .escaped q else if c = q then .plain else .quoted q
  | .escaped q, _ => .quoted q

/-- The number of open groups after one more character. -/
def Mode.depthAfter : Mode → Char → Nat → Nat
  | .plain, '(', depth => depth + 1
  | .plain, ')', depth => depth - 1
  | _, _, depth => depth

/-! ### The closing parenthesis -/

/-- Reads up to the `)` that closes the group. Inside that group, `depth` further groups are
open. -/
def scan (m : Mode) (depth : Nat) : Text → Option (Text × Text)
  | [] => none
  | c :: t =>
    if m = .plain ∧ c = ')' ∧ depth = 0 then some ([], t)
    else (scan (m.next c) (m.depthAfter c depth) t).map fun (u, rest) => (c :: u, rest)

/-- The interior, the closing parenthesis and the rest make up the scanned text. -/
theorem scan_append {m : Mode} {depth : Nat} {t interior rest : Text}
    (h : scan m depth t = some (interior, rest)) : interior ++ ')' :: rest = t := by
  induction t generalizing m depth interior with
  | nil => simp [scan] at h
  | cons c t ih =>
    rw [scan] at h
    split at h
    · simp_all
    · simp only [Option.map_eq_some_iff, Prod.exists, Prod.mk.injEq] at h
      obtain ⟨u, r, hs, rfl, rfl⟩ := h
      simp [ih hs]

/-- The interior of the balanced group that the text starts with, and what follows the group. -/
def interior? : Text → Option (Text × Text)
  | '(' :: t => scan .plain 0 t
  | _ => none

/-- The group and the rest make up the text. -/
theorem interior?_append {t interior rest : Text} (h : interior? t = some (interior, rest)) :
    '(' :: (interior ++ ')' :: rest) = t := by
  rw [interior?.eq_def] at h
  split at h
  · next t => rw [scan_append h]
  · cases h

/-! ### One outer pair -/

/-- Drops one pair of parentheses around the text, if it starts with `(` and ends with `)`. -/
def unwrap : Text → Text
  | '(' :: t => if t.getLast? = some ')' then t.dropLast else '(' :: t
  | t => t

/-- Unwrapping takes a pair of parentheses off. -/
theorem unwrap_wrap (t : Text) : unwrap ('(' :: (t ++ [')'])) = t := by
  simp [unwrap]

end Group

end TemplateFunctions
