import FlowTidy.Init.Block
import FlowTidy.Proofs.Text.Occurrence

/-!
What finding an init block says about a text: the parts of the block put together are the text, a
text without the opening mark has no block, and taking a block out takes at least one brace out and
brings together what stands before it and after it. The object of a block ends at the first brace
that a closing mark follows (`objectEnd?_append`, `exists_objectEnd?`), and a block is found behind
any text that has no opening mark (`find?_append`).
-/

namespace FlowTidy.InitBlock

open Text

theorem closing?_eq_some {t closing after : Text} (h : closing? t = some (closing, after)) :
    t = closing ++ after := by
  obtain ⟨left, hleft, heq⟩ := Option.map_eq_some_iff.mp h
  obtain ⟨rfl, rfl⟩ := Prod.mk.inj heq
  have hsplit : t = t.takeWhile isBlank ++ trimStart t := List.takeWhile_append_dropWhile.symm
  rw [after?_eq_some_iff.mp hleft] at hsplit
  rwa [List.append_assoc]

theorem objectEnd?_eq_some {t object closing after : Text}
    (h : objectEnd? t = some (object, closing, after)) : t = object ++ (closing ++ after) := by
  induction t generalizing object with
  | nil => contradiction
  | cons c t ih =>
    rw [objectEnd?] at h
    split at h
    · next closing' after' hclosing =>
      obtain ⟨rfl, rfl, rfl⟩ : [c] = object ∧ closing' = closing ∧ after' = after := by
        simpa using h
      split at hclosing
      · rw [closing?_eq_some hclosing]
        rfl
      · contradiction
    · obtain ⟨⟨object', parts⟩, hobject, heq⟩ := Option.map_eq_some_iff.mp h
      obtain ⟨rfl, rfl⟩ := Prod.mk.inj heq
      rw [ih hobject]
      rfl

/-! ## Where an object ends -/

theorem closing?_append {b : Text} (hb : b.Blank) (after : Text) :
    closing? (b ++ (closingMark ++ after)) = some (b ++ closingMark, after) := by
  have hstop : Stops isBlank (closingMark ++ after) := stops_cons.mpr (by decide)
  rw [closing?, trimStart, dropWhile_append hb hstop, takeWhile_append hb hstop, after?_append,
    Option.map_some]

theorem closing?_eq_some_iff {t closing after : Text} :
    closing? t = some (closing, after) ↔
      ∃ b : Text, b.Blank ∧ closing = b ++ closingMark ∧ t = closing ++ after := by
  constructor
  · intro h
    obtain ⟨left, -, heq⟩ := Option.map_eq_some_iff.mp h
    exact ⟨t.takeWhile isBlank, fun _ => mem_takeWhile, (Prod.mk.inj heq).1.symm,
      closing?_eq_some h⟩
  · rintro ⟨b, hb, rfl, rfl⟩
    rw [List.append_assoc, closing?_append hb]

theorem objectEnd?_brace {t closing after : Text} (h : closing? t = some (closing, after)) :
    objectEnd? ('}' :: t) = some (['}'], closing, after) := by
  rw [objectEnd?, if_pos rfl, h]

/-- A piece in which no brace is followed by a closing mark belongs to the object. -/
theorem objectEnd?_append {a t : Text}
    (ha : ∀ x y, a = x ++ '}' :: y → closing? (y ++ t) = none) :
    objectEnd? (a ++ t) = (objectEnd? t).map fun parts => (a ++ parts.1, parts.2) := by
  induction a with
  | nil => simp
  | cons c a ih =>
    have hnone : (if c = '}' then closing? (a ++ t) else none) = none := by
      split
      · next hc => exact ha [] a (by rw [hc]; rfl)
      · rfl
    have hrest := ih fun x y hxy => ha (c :: x) y (by rw [hxy]; rfl)
    rw [List.cons_append, objectEnd?, hnone, hrest]
    cases objectEnd? t <;> rfl

/-- An object does not end before its first closing brace. -/
theorem objectEnd?_append_of_not_mem {a : Text} (ha : '}' ∉ a) (t : Text) :
    objectEnd? (a ++ t) = (objectEnd? t).map fun parts => (a ++ parts.1, parts.2) :=
  objectEnd?_append fun x y hxy => absurd (by simp [hxy]) ha

/-- A closing mark is found in any case, and no later than after a given brace. -/
theorem exists_objectEnd? (a : Text) {t closing after : Text}
    (h : closing? t = some (closing, after)) :
    ∃ object closing' after', objectEnd? (a ++ '}' :: t) = some (object, closing', after') ∧
      after.length ≤ after'.length := by
  induction a with
  | nil => exact ⟨_, _, _, objectEnd?_brace h, Nat.le_refl _⟩
  | cons c a ih =>
    rw [List.cons_append, objectEnd?]
    split
    · next closing' after' hfound =>
      refine ⟨_, _, _, rfl, ?_⟩
      split at hfound
      · -- the blanks that are passed over end before the brace
        obtain ⟨b, hb, rfl, ht⟩ := closing?_eq_some_iff.mp hfound
        obtain ⟨b', hb', rfl, rfl⟩ := closing?_eq_some_iff.mp h
        have hstart : b <+: a ++ '}' :: (b' ++ closingMark ++ after) :=
          ⟨closingMark ++ after', by rw [ht, List.append_assoc]⟩
        have hprefix : b <+: a :=
          isPrefix_of_append_cons (fun hmem => absurd (hb _ hmem) (by decide)) hstart
        have hlength := congrArg List.length ht
        have hle := hprefix.length_le
        simp only [List.length_append, List.length_cons] at hlength
        omega
      · contradiction
    · obtain ⟨object, closing', after', hend, hle⟩ := ih
      refine ⟨c :: object, closing', after', ?_, hle⟩
      rw [hend]
      rfl

/-! ## Where a block is -/

/-- The parts of a block, put together. -/
def whole (b : InitBlock) : Text := b.before ++ (b.opening ++ (b.object ++ (b.closing ++ b.after)))

/-- The pieces of a block at the front of a text put together are the text. -/
theorem front?_eq_some {t : Text} {b : InitBlock} (h : front? t = some b) :
    t = b.whole ∧ b.before = [] ∧ openingMark <+: b.opening := by
  obtain ⟨inside, hinside, h⟩ := Option.bind_eq_some_iff.mp h
  split at h
  · next body hbody =>
    obtain ⟨⟨object, closing, after⟩, hobject, heq⟩ := Option.bind_eq_some_iff.mp h
    obtain rfl := Option.some.inj heq
    have hsplit : inside = inside.takeWhile isBlank ++ trimStart inside :=
      List.takeWhile_append_dropWhile.symm
    rw [hbody, objectEnd?_eq_some hobject] at hsplit
    refine ⟨?_, rfl, List.prefix_append _ _⟩
    rw [after?_eq_some_iff.mp hinside, whole, List.append_assoc]
    exact congrArg (openingMark ++ ·) hsplit
  · contradiction

/-- A block at the front of a text is opened by the mark, blanks and a brace. -/
theorem front?_append {b : Text} (hb : b.Blank) (body : Text) :
    front? (openingMark ++ (b ++ '{' :: body)) = (objectEnd? body).map fun parts =>
      { before := [], opening := openingMark ++ b, object := '{' :: parts.1,
        closing := parts.2.1, after := parts.2.2 } := by
  have hstop : Stops isBlank ('{' :: body) := stops_cons.mpr (by decide)
  rw [front?, after?_append, Option.bind_eq_bind, Option.bind_some, trimStart,
    dropWhile_append hb hstop, takeWhile_append hb hstop]
  simp only
  cases hend : objectEnd? body with
  | none => rfl
  | some parts => rfl

theorem front?_of_after? {t : Text} (h : after? openingMark t = none) : front? t = none := by
  rw [front?, h]
  rfl

/-- The block that the first opening mark opens is the first one. -/
theorem find?_of_cut? {t before rest : Text} {b : InitBlock}
    (hcut : cut? openingMark t = some (before, rest))
    (hfront : front? (openingMark ++ rest) = some b) : find? t = some { b with before } := by
  induction t generalizing before with
  | nil => contradiction
  | cons c t ih =>
    rw [cut?] at hcut
    split at hcut
    · next hafter =>
      obtain ⟨rfl, rfl⟩ := Prod.mk.inj (Option.some.inj hcut)
      rw [← eq_append_of_after? hafter] at hfront
      rw [find?, hfront, ← (front?_eq_some hfront).2.1]
    · next hnone =>
      obtain ⟨⟨inner, rest'⟩, hinner, heq⟩ := Option.map_eq_some_iff.mp hcut
      obtain ⟨rfl, rfl⟩ := Prod.mk.inj heq
      rw [find?, front?_of_after? hnone, ih hinner]
      rfl

/-- A block is found behind any text without an opening mark. -/
theorem find?_append {before t : Text} {b : InitBlock} (hbefore : ¬ openingMark <:+: before)
    (hfront : front? (openingMark ++ t) = some b) :
    find? (before ++ (openingMark ++ t)) = some { b with before } := by
  have hfree : ¬ openingMark <:+: (before ++ openingMark).dropLast := by
    rw [List.dropLast_append_of_ne_nil (by decide)]
    exact fun h => hbefore (infix_of_getLast? (c := ':') rfl (by decide) h)
  have hcut : cut? openingMark (before ++ openingMark ++ t) = some (before, t) :=
    cut?_append (by decide) hfree
  rw [List.append_assoc] at hcut
  exact find?_of_cut? hcut hfront

/-- The pieces of a block that is found put together are the text. -/
theorem find?_eq_some {t : Text} {b : InitBlock} (h : find? t = some b) :
    t = b.whole ∧ openingMark <+: b.opening := by
  induction t generalizing b with
  | nil => contradiction
  | cons c t ih =>
    rw [find?] at h
    split at h
    · next block hfront =>
      obtain rfl := Option.some.inj h
      obtain ⟨hwhole, -, hopening⟩ := front?_eq_some hfront
      exact ⟨hwhole, hopening⟩
    · obtain ⟨b', hb', rfl⟩ := Option.map_eq_some_iff.mp h
      obtain ⟨hwhole, hopening⟩ := ih hb'
      exact ⟨congrArg (c :: ·) hwhole, hopening⟩

theorem find?_of_not_infix {t : Text} (h : ¬ openingMark <:+: t) : find? t = none := by
  rw [Option.eq_none_iff_forall_ne_some]
  intro b hb
  obtain ⟨hwhole, hopening⟩ := find?_eq_some hb
  refine h (hopening.isInfix.trans ⟨b.before, b.object ++ (b.closing ++ b.after), ?_⟩)
  rw [hwhole, whole, List.append_assoc]

/-- Taking a block out of a text takes its braces out. -/
theorem count_remaining_lt {t : Text} {b : InitBlock} (h : find? t = some b) :
    b.remaining.count '{' < t.count '{' := by
  obtain ⟨hwhole, hopening⟩ := find?_eq_some h
  have hmark : 1 ≤ b.opening.count '{' := hopening.sublist.count_le '{'
  rw [hwhole, whole, remaining]
  simp only [List.count_append]
  omega

/-- The number of backquotes that come together when a block is taken out of a text. -/
def seam (b : InitBlock) : Nat :=
  (b.before.rtakeWhile (· == '`')).length + (b.after.takeWhile (· == '`')).length

/-- Taking a block out of a text makes a run of backquotes only at the seam. -/
theorem replicate_infix_remaining_iff {t : Text} {b : InitBlock} (h : find? t = some b) {n : Nat}
    (ht : ¬ List.replicate n '`' <:+: t) :
    List.replicate n '`' <:+: b.remaining ↔ n ≤ b.seam := by
  rw [(find?_eq_some h).1, whole] at ht
  refine replicate_infix_append_iff (fun hin => ht ?_) fun hin => ht ?_
  · exact hin.trans (List.prefix_append _ _).isInfix
  · exact hin.trans ⟨b.before ++ (b.opening ++ (b.object ++ b.closing)), [], by simp⟩

end FlowTidy.InitBlock
