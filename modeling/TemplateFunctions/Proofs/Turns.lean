import TemplateFunctions.Proofs.ByteOrder
import TemplateFunctions.Proofs.Closing
import TemplateFunctions.Proofs.Run
import TemplateFunctions.Proofs.Slices

/-!
A turn of compiling, by byte positions.

A template is compiled in a loop that looks for the next `@` and keeps two positions: up to where
the template is copied, and up to where it is looked through. Everything that a turn of the loop
reads is a slice of the template between two positions. A turn comes to nothing if there is no such
slice, or if a count of open groups would go below zero.

* `gapBytes_eq`: the blank bytes at the start of a text are its blanks.
* `expressionAt?_of_argued`: the argument of a site is found behind its name.
* `Progress`: where the loop stands; `Progress.search`, `Progress.turn`: the next `@`, and the turn
  for it.
* `turn_of_passes`, `turn_of_replaces`, `turn_of_fails`: **a turn does what the rule says**, so that
  it finds its slices.
-/

namespace TemplateFunctions

/-! ### Blanks, byte by byte -/

lemma Text.Utf8.first_eq_iff {n k : ℕ} (hk : k < 128) : first n = k ↔ n = k := by
  simp only [first, further]
  split_ifs <;> simp only [above, mark] <;> omega

namespace Template

/-- Whether a byte is a blank. -/
def isGapByte (b : UInt8) : Bool := b == 32 || b == 9

/-- The number of blank bytes that a text starts with. -/
def gapBytes (t : Text) : ℕ := (t.bytes.takeWhile isGapByte).length

/-- The first byte of a character is a blank exactly if the character is one. -/
lemma isGapByte_first (c : Char) : isGapByte (UInt8.ofNat (Text.Utf8.first c.toNat)) = isGap c := by
  have hlt := Text.Utf8.first_lt (Text.Utf8.toNat_lt c)
  have hbyte (d : Char) (hd : d.toNat < 128) :
      UInt8.ofNat (Text.Utf8.first c.toNat) = UInt8.ofNat d.toNat ↔ c = d := by
    rw [← UInt8.toNat_inj, UInt8.toNat_ofNat', UInt8.toNat_ofNat', Nat.mod_eq_of_lt hlt,
      Nat.mod_eq_of_lt (by omega), Text.Utf8.first_eq_iff hd, Char.toNat_inj]
  have hspace := hbyte ' ' (by decide)
  have htab := hbyte '\t' (by decide)
  rw [Bool.eq_iff_iff, isGapByte, isGap, Bool.or_eq_true, Bool.or_eq_true, beq_iff_eq, beq_iff_eq,
    beq_iff_eq, beq_iff_eq]
  exact or_congr hspace htab

/-- A blank is one byte, which is a blank. -/
lemma utf8EncodeChar_of_isGap {c : Char} (h : isGap c = true) :
    ∃ b, String.utf8EncodeChar c = [b] ∧ isGapByte b = true ∧ c.utf8Size = 1 := by
  rw [isGap, Bool.or_eq_true, beq_iff_eq, beq_iff_eq] at h
  rcases h with rfl | rfl
  · exact ⟨32, rfl, rfl, rfl⟩
  · exact ⟨9, rfl, rfl, rfl⟩

/-- **The blank bytes that a text starts with are its blanks.** -/
lemma gapBytes_eq (t : Text) : gapBytes t = Text.utf8Size (t.takeWhile isGap) := by
  induction t with
  | nil => rfl
  | cons c t ih =>
      rw [gapBytes, Text.bytes_cons]
      by_cases hc : isGap c = true
      · obtain ⟨b, hb, hgap, hone⟩ := utf8EncodeChar_of_isGap hc
        rw [List.takeWhile_cons_of_pos hc, Text.utf8Size_cons, ← ih, hb, List.singleton_append,
          List.takeWhile_cons_of_pos hgap, List.length_cons, hone, gapBytes, Nat.add_comm]
      · have hfirst := isGapByte_first c
        rw [Text.Utf8.utf8EncodeChar_eq, List.cons_append, List.takeWhile_cons_of_neg (hfirst ▸ hc),
          List.takeWhile_cons_of_neg hc]
        rfl

/-! ### The argument of a directive -/

/-- The position of the `)` that closes the group which opens at a position, if one does. -/
def groupEnd? (t : Text) (i : ℕ) : Option (Option ℕ) := do
  let group ← t.from? i
  if group.head? = some '(' then Group.seek .plain 0 i group else some none

/-- A text without the pair of parentheses around it, if there is one. -/
def unwrap? (g : Text) : Option Text :=
  if 2 ≤ Text.utf8Size g ∧ g.head? = some '(' ∧ g.getLast? = some ')' then
    g.slice? 1 (Text.utf8Size g - 1)
  else some g

/-- The interior of the group that opens at a position, and where the group ends. -/
def groupAt? (t : Text) (i : ℕ) : Option (Option (Text × ℕ)) := do
  match ← groupEnd? t i with
  | some close =>
    let group ← t.slice? i (close + 1)
    let interior ← unwrap? group
    some (some (interior, close + 1))
  | none => some none

/-- What the directive whose name ends at a position is given, and where its site ends. -/
def expressionAt? (t : Text) (nameEnd : ℕ) : Option (Text × ℕ) := do
  let behind ← t.from? nameEnd
  let group? ← groupAt? t (nameEnd + gapBytes behind)
  some (group?.getD ([], nameEnd))

/-- The end of a group is found where the scan ends. -/
lemma groupEnd?_append (before t : Text) :
    groupEnd? (before ++ t) (Text.utf8Size before) =
      some ((Group.interior? t).map fun found => Text.utf8Size (before ++ '(' :: found.1)) := by
  rw [groupEnd?, Text.from?_append, Option.bind_eq_bind, Option.bind_some]
  split
  · next hopen =>
    obtain ⟨t, rfl⟩ := List.head?_eq_some_iff.1 hopen
    rw [Group.seek_open, Group.closing?_append]
    simp only [Text.utf8Size_append]
  · next hopen =>
    have hnone : Group.interior? t = none := by
      rw [Group.interior?.eq_def]
      split
      · exact absurd rfl hopen
      · rfl
    rw [hnone, Option.map_none]

/-- The parentheses of a group are taken off. -/
lemma unwrap?_group (u : Text) : unwrap? ('(' :: (u ++ [')'])) = some u := by
  have hopen : '('.utf8Size = 1 := rfl
  have hclose : ')'.utf8Size = 1 := rfl
  have hwrapped : 2 ≤ Text.utf8Size ('(' :: (u ++ [')'])) ∧
      ('(' :: (u ++ [')'])).head? = some '(' ∧ ('(' :: (u ++ [')'])).getLast? = some ')' := by
    refine ⟨?_, rfl, ?_⟩
    · simp only [Text.utf8Size_cons, Text.utf8Size_append, Text.utf8Size_nil]
      omega
    · rw [← List.cons_append, List.getLast?_concat]
  rw [unwrap?, if_pos hwrapped, Text.slice?_eq_some_iff]
  refine ⟨['('], [')'], rfl, rfl, ?_⟩
  simp only [Text.utf8Size_cons, Text.utf8Size_append, Text.utf8Size_nil]
  omega

/-- A group is found with its interior. -/
lemma groupAt?_append (before t : Text) :
    groupAt? (before ++ t) (Text.utf8Size before) =
      some ((Group.interior? t).map fun found =>
        (found.1, Text.utf8Size (before ++ '(' :: (found.1 ++ [')'])))) := by
  rw [groupAt?, groupEnd?_append, Option.bind_eq_bind, Option.bind_some]
  cases hi : Group.interior? t with
  | none => rfl
  | some found =>
      obtain ⟨u, rest⟩ := found
      have hclose : ')'.utf8Size = 1 := rfl
      have hend : Text.utf8Size (before ++ '(' :: u) + 1 =
          Text.utf8Size (before ++ '(' :: (u ++ [')'])) := by
        simp only [Text.utf8Size_append, Text.utf8Size_cons, Text.utf8Size_nil, hclose]
        omega
      have hslice : Text.slice? (before ++ t) (Text.utf8Size before)
          (Text.utf8Size (before ++ '(' :: (u ++ [')']))) = some ('(' :: (u ++ [')'])) := by
        refine Text.slice?_eq_some_iff.2 ⟨before, rest, ?_, rfl, rfl⟩
        rw [← Group.interior?_append hi]
        simp
      simp only [Option.map_some, hend, hslice, unwrap?_group, Option.bind_eq_bind,
        Option.bind_some]

/-- **The argument of a site is found behind its name.** -/
lemma expressionAt?_of_argued {site : Site} {rest : Text} (h : site.Argued rest) (before : Text) :
    expressionAt? (before ++ (site.tail ++ rest)) (Text.utf8Size before) =
      some (site.expression, Text.utf8Size (before ++ site.tail)) := by
  obtain ⟨name, argument⟩ := site
  have hsite : siteOf name (Site.tail ⟨name, argument⟩ ++ rest) = (⟨name, argument⟩, rest) :=
    siteOf_eq_iff.2 ⟨rfl, rfl, h⟩
  generalize Site.tail ⟨name, argument⟩ ++ rest = t at hsite
  -- blanks are single bytes: the position behind them is the same counted either way
  have hgroup := groupAt?_append (before ++ t.takeWhile isGap) (t.dropWhile isGap)
  rw [List.append_assoc, List.takeWhile_append_dropWhile, Text.utf8Size_append, ← gapBytes_eq]
    at hgroup
  rw [expressionAt?, Text.from?_append, Option.bind_eq_bind, Option.bind_some, hgroup,
    Option.bind_eq_bind, Option.bind_some]
  rw [siteOf, argument?] at hsite
  cases hi : Group.interior? (t.dropWhile isGap) with
  | none =>
      rw [hi] at hsite
      cases hsite
      simp [Site.expression, Site.tail]
  | some found =>
      rw [hi] at hsite
      cases hsite
      simp [Site.expression, Site.tail, Argument.source]

/-! ### Behind an `@` -/

lemma utf8Size_append_mark (before t : Text) :
    Text.utf8Size (before ++ '@' :: t) = Text.utf8Size before + 1 + Text.utf8Size t := by
  have hone : '@'.utf8Size = 1 := rfl
  rw [Text.utf8Size_append, Text.utf8Size_cons, hone, Nat.add_assoc]

lemma utf8Size_append_pair (before t : Text) :
    Text.utf8Size (before ++ '@' :: '@' :: t) = Text.utf8Size before + 2 + Text.utf8Size t := by
  rw [List.append_cons, utf8Size_append_mark, utf8Size_append_mark, Text.utf8Size_nil]

lemma from?_mark (before t : Text) :
    Text.from? (before ++ '@' :: t) (Text.utf8Size before + 1) = some t :=
  Text.from?_eq_some_iff.2 ⟨before ++ ['@'], List.append_cons before '@' t,
    utf8Size_append_mark before []⟩

lemma from?_pair (before t : Text) :
    Text.from? (before ++ '@' :: '@' :: t) (Text.utf8Size before + 2) = some t :=
  Text.from?_eq_some_iff.2 ⟨before ++ ['@', '@'], by simp, utf8Size_append_pair before []⟩

/-! ### A turn of the loop -/

/-- **Where the loop stands**: the session, what is written, the position up to which the template
is copied, and the one up to which it is looked through. -/
structure Progress where
  session : Session
  output : Text
  copied : ℕ
  cursor : ℕ

namespace Progress

/-- The position of the next `@`. -/
def search (t : Text) (st : Progress) : Option (Option ℕ) := do
  let ahead ← t.from? st.cursor
  some ((ahead.offset? '@').map (st.cursor + ·))

/-- Copies the template up to an `@`, and writes new text for the template from there to `stop`. -/
def write (t : Text) (st : Progress) (i : ℕ) (new : Text) (stop : ℕ) (after : Session) :
    Option Progress := do
  let kept ← t.slice? st.copied i
  some ⟨after, st.output ++ (kept ++ new), stop, stop⟩

/-- The turn for two `@`, the first one at position `i`. -/
def turnPair (t : Text) (st : Progress) (i : ℕ) : Option Progress := do
  let behind ← t.from? (i + 2)
  match Identifier.split? behind with
  | some (name, _) => st.write t i ('@' :: name) (i + 2 + Text.utf8Size name) st.session
  | none => some { st with cursor := i + 2 }

/-- The turn for an `@` at position `i` and a known name behind it. -/
def turnKnown (t : Text) (st : Progress) (i : ℕ) (name : Text) :
    Option (Except (Fault × Session) Progress) := do
  let nameEnd := i + 1 + Text.utf8Size name
  let (expression, stop) ← expressionAt? t nameEnd
  match st.session.dispatch name expression with
  | (.error cause, after) =>
    let before ← t.upTo? i
    some (.error (⟨name, Text.lineAfter before, cause⟩, after))
  | (.ok none, after) => some (.ok { st with session := after, cursor := nameEnd })
  | (.ok (some fragment), after) => (st.write t i fragment stop after).map .ok

/-- The turn for an `@` at position `i` that may start a site. -/
def turnName (t : Text) (st : Progress) (i : ℕ) :
    Option (Except (Fault × Session) Progress) := do
  let behind ← t.from? (i + 1)
  match Identifier.split? behind with
  | none => some (.ok { st with cursor := i + 1 })
  | some (name, _) =>
    if st.session.table.contains name then st.turnKnown t i name
    else some (.ok { st with cursor := i + 1 + Text.utf8Size name })

/-- **The turn of the loop for an `@` at position `i`**: a fault, or where the loop stands then. -/
def turn (t : Text) (st : Progress) (i : ℕ) : Option (Except (Fault × Session) Progress) := do
  let before ← t.upTo? i
  if endsInWord before then some (.ok { st with cursor := i + 1 })
  else
    let behind ← t.from? (i + 1)
    if behind.head? = some '@' then (st.turnPair t i).map .ok
    else st.turnName t i

/-! ### A turn does what the rule says -/

variable {st : Progress} {before rest : Text}

/-- Text that is kept is copied up to the `@`. -/
lemma write_of_copied {a kept : Text} (hcopied : Text.utf8Size a = st.copied) (rest new : Text)
    (stop : ℕ) (after : Session) :
    st.write (a ++ kept ++ rest) (Text.utf8Size (a ++ kept)) new stop after =
      some ⟨after, st.output ++ (kept ++ new), stop, stop⟩ := by
  have hslice : Text.slice? (a ++ kept ++ rest) st.copied (Text.utf8Size (a ++ kept)) = some kept :=
    Text.slice?_eq_some_iff.2 ⟨a, rest, List.append_assoc a kept rest, hcopied, rfl⟩
  rw [write, hslice, Option.bind_eq_bind, Option.bind_some]

/-- The turn for two `@` looks for a name behind them. -/
lemma turnPair_eq (st : Progress) (before t : Text) :
    st.turnPair (before ++ '@' :: '@' :: t) (Text.utf8Size before) =
      match Identifier.split? t with
      | some (name, _) =>
        st.write (before ++ '@' :: '@' :: t) (Text.utf8Size before) ('@' :: name)
          (Text.utf8Size (before ++ '@' :: '@' :: name)) st.session
      | none => some { st with cursor := Text.utf8Size (before ++ ['@', '@']) } := by
  rw [turnPair, from?_pair, Option.bind_eq_bind, Option.bind_some]
  cases Identifier.split? t with
  | none => simp only [utf8Size_append_pair, Text.utf8Size_nil, Nat.add_zero]
  | some found => simp only [utf8Size_append_pair]

/-- Behind no word character, the turn looks at what stands behind the `@`. -/
lemma turn_of_apart (st : Progress) (hb : endsInWord before = false) (t : Text) :
    st.turn (before ++ '@' :: t) (Text.utf8Size before) =
      if t.head? = some '@' then
        (st.turnPair (before ++ '@' :: t) (Text.utf8Size before)).map .ok
      else st.turnName (before ++ '@' :: t) (Text.utf8Size before) := by
  rw [turn, Text.upTo?_append, Option.bind_eq_bind, Option.bind_some, hb, if_neg Bool.false_ne_true,
    from?_mark, Option.bind_some]

/-- The turn for one `@` looks for a name behind it. -/
lemma turnName_eq (st : Progress) (before t : Text) :
    st.turnName (before ++ '@' :: t) (Text.utf8Size before) =
      match Identifier.split? t with
      | none => some (.ok { st with cursor := Text.utf8Size (before ++ ['@']) })
      | some (name, _) =>
        if st.session.table.contains name then
          st.turnKnown (before ++ '@' :: t) (Text.utf8Size before) name
        else some (.ok { st with cursor := Text.utf8Size (before ++ '@' :: name) }) := by
  rw [turnName, from?_mark, Option.bind_eq_bind, Option.bind_some]
  cases Identifier.split? t with
  | none => simp only [utf8Size_append_mark, Text.utf8Size_nil, Nat.add_zero]
  | some found => simp only [utf8Size_append_mark]

/-- **The turn for text that is passed over** moves behind it. -/
lemma turn_of_passes {u : Text} (h : Passes st.session before ('@' :: u) rest) :
    st.turn (before ++ ('@' :: u ++ rest)) (Text.utf8Size before) =
      some (.ok { st with cursor := Text.utf8Size (before ++ '@' :: u) }) := by
  rw [List.cons_append]
  cases h with
  -- a turn begins at an `@`, so that the first case is none
  | char hc => exact absurd rfl hc
  | glued hb =>
      rw [List.nil_append, turn, Text.upTo?_append, Option.bind_eq_bind, Option.bind_some,
        if_pos hb, utf8Size_append_mark, Text.utf8Size_nil]
  | pair hb habsent =>
      rw [List.singleton_append, turn_of_apart st hb, if_pos List.head?_cons, turnPair_eq,
        Identifier.split?_eq_none_iff.2 habsent]
      rfl
  | lone hb habsent hat =>
      rw [List.nil_append, turn_of_apart st hb, if_neg hat, turnName_eq,
        Identifier.split?_eq_none_iff.2 habsent]
  | unknown hb hname hunknown =>
      rw [turn_of_apart st hb, if_neg hname.ne_at, turnName_eq,
        Identifier.split?_eq_some_iff.2 ⟨hname, rfl⟩]
      simp only [hunknown]
      rfl

/-- The turn for a site dispatches its directive. -/
lemma turn_of_stands {site : Site} (h : site.Stands st.session before rest) :
    st.turn (before ++ (site.source ++ rest)) (Text.utf8Size before) =
      match st.session.dispatch site.name site.expression with
      | (.error cause, after) => some (.error (⟨site.name, Text.lineAfter before, cause⟩, after))
      | (.ok none, after) =>
        some (.ok { st with
          session := after, cursor := Text.utf8Size (before ++ '@' :: site.name) })
      | (.ok (some fragment), after) =>
        (st.write (before ++ (site.source ++ rest)) (Text.utf8Size before) fragment
          (Text.utf8Size (before ++ site.source)) after).map .ok := by
  have hsource : site.source ++ rest = '@' :: (site.name ++ (site.tail ++ rest)) := by
    rw [Site.source_eq, List.cons_append, List.append_assoc]
  have hexpression := expressionAt?_of_argued h.argued (before ++ '@' :: site.name)
  rw [List.append_assoc, List.append_assoc, List.cons_append, ← hsource, List.cons_append,
    ← Site.source_eq] at hexpression
  rw [hsource, turn_of_apart st h.apart, if_neg h.leads.ne_at, turnName_eq,
    Identifier.split?_eq_some_iff.2 ⟨h.leads, rfl⟩]
  simp only [h.known, if_true]
  rw [← hsource, turnKnown, ← utf8Size_append_mark, hexpression, Option.bind_eq_bind,
    Option.bind_some]
  simp only [Text.upTo?_append, Option.bind_eq_bind, Option.bind_some]

/-- **The turn for text that is replaced** copies what is kept in front of it, writes what takes its
place, and moves behind it. -/
lemma turn_of_replaces {a kept u r : Text} {after : Session}
    (hcopied : Text.utf8Size a = st.copied)
    (h : Replaces st.session (a ++ kept) u r after rest) :
    st.turn (a ++ kept ++ (u ++ rest)) (Text.utf8Size (a ++ kept)) =
      some (.ok ⟨after, st.output ++ (kept ++ r), Text.utf8Size (a ++ kept ++ u),
        Text.utf8Size (a ++ kept ++ u)⟩) := by
  cases h with
  | @escape name _ hb hname =>
      rw [List.cons_append, List.cons_append, turn_of_apart st hb, if_pos List.head?_cons,
        turnPair_eq, Identifier.split?_eq_some_iff.2 ⟨hname, rfl⟩]
      simp only [write_of_copied hcopied, Option.map_some]
  | site hstands hdispatch =>
      rw [turn_of_stands hstands, hdispatch]
      simp only [write_of_copied hcopied, Option.map_some]

/-- **The turn for a site that fails** ends the loop. -/
lemma turn_of_fails {site : Site} {cause : Declaration.Unnamed}
    (h : Fails st.session before site rest cause) :
    st.turn (before ++ (site.source ++ rest)) (Text.utf8Size before) =
      some (.error (⟨site.name, Text.lineAfter before, cause⟩, st.session)) := by
  rw [turn_of_stands h.stands, h.refused]

end Progress

end Template

end TemplateFunctions
