import FlowTidy.Init.Settings
import FlowTidy.Proofs.Init.Block

/-!
Where an init block is found. What opens a block and what closes it are said by offsets in bytes,
without a search: `Opens` for the mark with the brace after it, `Closes` for the brace that ends the
object with the mark after it. The two searches stop at the first place where they can
(`isPrefix_of_objectEnd?`, `exists_find?_of_front?`), so the block that is found is the first one
that is opened and closed, and it ends as early as it can (`find?_first`).
-/

namespace FlowTidy.InitBlock

open Text

/-! ## Spans -/

/-- At `start` there is an opening mark, and the next character that is not blank is the brace at
`objectStart`. -/
def Opens (t : Text) (start objectStart : Nat) : Prop :=
  ∃ b : Text, b.Blank ∧ StandsAt t (openingMark ++ (b ++ ['{'])) start ∧
    objectStart = start + byteSize (openingMark ++ b)

/-- After the brace at `objectStart` there is a brace, ending at `objectStop`, after which the next
characters that are not blank are a closing mark, ending at `stop`. -/
def Closes (t : Text) (objectStart objectStop stop : Nat) : Prop :=
  ∃ inside b : Text, b.Blank ∧
    StandsAt t ('{' :: (inside ++ '}' :: (b ++ closingMark))) objectStart ∧
    objectStop = objectStart + byteSize ('{' :: (inside ++ ['}'])) ∧
    stop = objectStop + byteSize (b ++ closingMark)

section
variable {t : Text} {start objectStart objectStop stop : Nat}

/-- What closes an object lies in the text after its brace. -/
theorem Closes.exists_inside {a body : Text} (h : Closes t objectStart objectStop stop)
    (ht : t = a ++ '{' :: body) (ha : byteSize a = objectStart) :
    ∃ inside y, body = inside ++ '}' :: y ∧ (closing? y).isSome = true ∧
      objectStop = objectStart + byteSize ('{' :: (inside ++ ['}'])) := by
  obtain ⟨inside, b, hb, ⟨a', after, ht', ha'⟩, hstop, -⟩ := h
  obtain ⟨-, hrest⟩ := append_inj_of_byteSize (ht.symm.trans ht') (ha.trans ha'.symm)
  refine ⟨inside, b ++ (closingMark ++ after), by simpa using hrest, ?_, hstop⟩
  rw [closing?_append hb]
  rfl

/-- Where a block is opened and closed, there is one at the front of the rest. -/
theorem exists_front?_of_opens (hopens : Opens t start objectStart)
    (hcloses : Closes t objectStart objectStop stop) :
    ∃ x y, t = x ++ y ∧ byteSize x = start ∧ (front? y).isSome = true := by
  obtain ⟨b, hb, ⟨x, body, ht, rfl⟩, rfl⟩ := hopens
  have hsplit : t = x ++ (openingMark ++ b) ++ '{' :: body := by simpa using ht
  obtain ⟨inside, y, rfl, hy, -⟩ := hcloses.exists_inside hsplit (byteSize_append _ _)
  refine ⟨x, _, ht, rfl, ?_⟩
  obtain ⟨⟨closing, after⟩, hclosing⟩ := Option.isSome_iff_exists.mp hy
  obtain ⟨object, closing', after', hend, -⟩ := exists_objectEnd? inside hclosing
  rw [List.append_assoc, List.append_assoc, List.singleton_append, front?_append hb, hend]
  rfl

end

/-! ## The end of the object -/

theorem objectEnd?_parts {t object closing after : Text}
    (h : objectEnd? t = some (object, closing, after)) :
    (∃ inside, object = inside ++ ['}']) ∧ ∃ b : Text, b.Blank ∧ closing = b ++ closingMark := by
  induction t generalizing object with
  | nil => contradiction
  | cons c t ih =>
    rw [objectEnd?] at h
    split at h
    · next closing' after' hclosing =>
      obtain ⟨rfl, rfl, rfl⟩ : [c] = object ∧ closing' = closing ∧ after' = after := by
        simpa using h
      split at hclosing
      · next hc =>
        obtain ⟨b, hb, rfl, -⟩ := closing?_eq_some_iff.mp hclosing
        exact ⟨⟨[], by rw [hc]; rfl⟩, b, hb, rfl⟩
      · contradiction
    · obtain ⟨⟨object', parts⟩, hobject, heq⟩ := Option.map_eq_some_iff.mp h
      obtain ⟨rfl, rfl⟩ := Prod.mk.inj heq
      obtain ⟨⟨inside, rfl⟩, hclosing⟩ := ih hobject
      exact ⟨⟨c :: inside, rfl⟩, hclosing⟩

/-- The object ends at the first brace that a closing mark follows. -/
theorem isPrefix_of_objectEnd? {x y object closing after : Text}
    (h : objectEnd? (x ++ '}' :: y) = some (object, closing, after))
    (hy : (closing? y).isSome = true) : object <+: x ++ ['}'] := by
  obtain ⟨parts, hclosing⟩ := Option.isSome_iff_exists.mp hy
  induction x generalizing object with
  | nil =>
    rw [List.nil_append, objectEnd?_brace hclosing] at h
    obtain ⟨rfl, -⟩ := Prod.mk.inj (Option.some.inj h)
    exact List.prefix_rfl
  | cons c x ih =>
    rw [List.cons_append, objectEnd?] at h
    split at h
    · obtain ⟨rfl, -⟩ := Prod.mk.inj (Option.some.inj h)
      exact List.prefix_append [c] _
    · obtain ⟨⟨object', parts⟩, hobject, heq⟩ := Option.map_eq_some_iff.mp h
      obtain ⟨rfl, rfl⟩ := Prod.mk.inj heq
      exact (List.prefix_cons_inj c).mpr (ih hobject)

/-! ## The start of the block -/

theorem front?_parts {t : Text} {block : InitBlock} (h : front? t = some block) :
    ∃ b body object, b.Blank ∧ t = openingMark ++ (b ++ '{' :: body) ∧
      objectEnd? body = some (object, block.closing, block.after) ∧
      block.opening = openingMark ++ b ∧ block.object = '{' :: object := by
  obtain ⟨inside, hinside, h⟩ := Option.bind_eq_some_iff.mp h
  split at h
  · next body hbody =>
    obtain ⟨⟨object, closing, after⟩, hobject, heq⟩ := Option.bind_eq_some_iff.mp h
    obtain rfl := Option.some.inj heq
    refine ⟨inside.takeWhile isBlank, body, object, fun _ => mem_takeWhile, ?_, hobject, rfl, rfl⟩
    rw [after?_eq_some_iff.mp hinside, ← hbody, trimStart, List.takeWhile_append_dropWhile]
  · contradiction

theorem front?_of_find? {t : Text} {block : InitBlock} (h : find? t = some block) :
    ∃ y, t = block.before ++ y ∧ front? y = some { block with before := [] } := by
  induction t generalizing block with
  | nil => contradiction
  | cons c t ih =>
    rw [find?] at h
    split at h
    · next block' hfront =>
      obtain rfl := Option.some.inj h
      refine ⟨c :: t, ?_, ?_⟩
      · rw [(front?_eq_some hfront).2.1, List.nil_append]
      · rw [hfront, ← (front?_eq_some hfront).2.1]
    · obtain ⟨block', hblock, rfl⟩ := Option.map_eq_some_iff.mp h
      obtain ⟨y, rfl, hfront⟩ := ih hblock
      exact ⟨y, rfl, hfront⟩

/-- Where a block is at the front of an end of the text, one is found, and no later. -/
theorem exists_find?_of_front? (x : Text) {y : Text} (hy : (front? y).isSome = true) :
    ∃ block, find? (x ++ y) = some block ∧ block.before <+: x := by
  obtain ⟨block, hfront⟩ := Option.isSome_iff_exists.mp hy
  induction x with
  | nil =>
    cases y with
    | nil => contradiction
    | cons c y =>
      refine ⟨block, ?_, by rw [(front?_eq_some hfront).2.1]⟩
      rw [List.nil_append, find?, hfront]
  | cons c x ih =>
    obtain ⟨later, hlater, hprefix⟩ := ih
    rw [List.cons_append, find?, hlater]
    split
    · next earlier hearlier =>
      exact ⟨earlier, rfl, by rw [(front?_eq_some hearlier).2.1]; exact List.nil_prefix⟩
    · exact ⟨_, rfl, (List.prefix_cons_inj c).mpr hprefix⟩

/-! ## The block that is found -/

section
variable {t : Text} {block : InitBlock} (h : find? t = some block)
include h

/-- The offsets of a block that is found are those of its parts in the text. -/
theorem opens_of_find? : Opens t block.start block.objectStart ∧
    Closes t block.objectStart block.objectStop block.stop := by
  obtain ⟨y, ht, hfront⟩ := front?_of_find? h
  obtain ⟨b, body, object, hb, rfl, hobject, hopening, hobject'⟩ := front?_parts hfront
  obtain ⟨⟨inside, rfl⟩, b', hb', hclosing⟩ := objectEnd?_parts hobject
  have hbody := objectEnd?_eq_some hobject
  simp only at hopening hobject' hclosing hbody
  refine ⟨⟨b, hb, ⟨block.before, body, by simpa using ht, rfl⟩, ?_⟩, inside, b', hb',
    ⟨block.before ++ (openingMark ++ b), block.after, ?_, ?_⟩, ?_, ?_⟩
  · rw [objectStart, hopening]
  · rw [ht, hbody, hclosing]
    simp
  · rw [objectStart, start, hopening, byteSize_append]
  · rw [objectStop, hobject']
  · rw [stop, hclosing]

/-- No block is opened and closed before the one that is found. -/
theorem start_le {start objectStart objectStop stop : Nat} (hopens : Opens t start objectStart)
    (hcloses : Closes t objectStart objectStop stop) : block.start ≤ start := by
  obtain ⟨x, y, rfl, rfl, hy⟩ := exists_front?_of_opens hopens hcloses
  obtain ⟨block', hblock', hprefix⟩ := exists_find?_of_front? x hy
  obtain rfl := Option.some.inj (h.symm.trans hblock')
  exact byteSize_le_of_isPrefix hprefix

/-- The object ends at the first brace that can end it. -/
theorem objectStop_le {objectStop stop : Nat}
    (hcloses : Closes t block.objectStart objectStop stop) : block.objectStop ≤ objectStop := by
  obtain ⟨y, ht, hfront⟩ := front?_of_find? h
  obtain ⟨b, body, object, hb, rfl, hobject, hopening, hobject'⟩ := front?_parts hfront
  simp only at hopening hobject'
  have hstart : byteSize (block.before ++ (openingMark ++ b)) = block.objectStart := by
    rw [byteSize_append, objectStart, start, hopening]
  obtain ⟨inside, y, rfl, hy, rfl⟩ := hcloses.exists_inside (by simpa using ht) hstart
  have hle := byteSize_le_of_isPrefix (isPrefix_of_objectEnd? hobject hy)
  rw [InitBlock.objectStop, hobject', byteSize, byteSize]
  omega

/-- The offsets of a block are in order. -/
theorem offsets_lt : block.start < block.objectStart ∧ block.objectStart < block.objectStop ∧
    block.objectStop < block.stop ∧ block.stop ≤ byteSize t := by
  obtain ⟨y, -, hfront⟩ := front?_of_find? h
  obtain ⟨b, body, object, -, -, hobject, hopening, hobject'⟩ := front?_parts hfront
  obtain ⟨-, b', -, hclosing⟩ := objectEnd?_parts hobject
  simp only at hopening hobject' hclosing
  refine ⟨Nat.lt_add_of_pos_right (byteSize_pos ?_), Nat.lt_add_of_pos_right (byteSize_pos ?_),
    Nat.lt_add_of_pos_right (byteSize_pos ?_), ?_⟩
  · rw [hopening]
    exact List.cons_ne_nil _ _
  · rw [hobject']
    exact List.cons_ne_nil _ _
  · rw [hclosing]
    simp [closingMark]
  · rw [(find?_eq_some h).1, whole]
    simp only [stop, objectStop, objectStart, start, byteSize_append]
    omega

theorem isBoundary_of_mem {offset : Nat}
    (hoffset : offset ∈ [block.start, block.objectStart, block.objectStop, block.stop]) :
    IsBoundary t offset := by
  rw [(find?_eq_some h).1, whole]
  simp only [List.mem_cons, List.not_mem_nil, or_false] at hoffset
  rcases hoffset with rfl | rfl | rfl | rfl
  · exact ⟨block.before, _, rfl, rfl⟩
  · refine ⟨block.before ++ block.opening,
      block.object ++ (block.closing ++ block.after), by simp, ?_⟩
    rw [byteSize_append, objectStart, start]
  · refine ⟨block.before ++ (block.opening ++ block.object),
      block.closing ++ block.after, by simp, ?_⟩
    rw [byteSize_append, byteSize_append, objectStop, objectStart, start, Nat.add_assoc]
  · refine ⟨block.before ++ (block.opening ++ (block.object ++ block.closing)),
      block.after, by simp, ?_⟩
    simp only [byteSize_append, stop, objectStop, objectStart, start]
    omega

end

/-- A block is found in a text exactly if one is opened and closed in it. The block is the first
one, its object ends at the first brace that can end it, its offsets are at characters and in order,
and extracting the settings deletes what is between the start and the end of the block. -/
theorem find?_first (t : Text) :
    ((find? t).isSome = true ↔ ∃ start objectStart objectStop stop,
      Opens t start objectStart ∧ Closes t objectStart objectStop stop) ∧
    ∀ block, find? t = some block →
      (Opens t block.start block.objectStart ∧
        Closes t block.objectStart block.objectStop block.stop) ∧
      (∀ start objectStart objectStop stop, Opens t start objectStart →
        Closes t objectStart objectStop stop → block.start ≤ start) ∧
      (∀ objectStop stop, Closes t block.objectStart objectStop stop →
        block.objectStop ≤ objectStop) ∧
      (∀ offset ∈ [block.start, block.objectStart, block.objectStop, block.stop],
        IsBoundary t offset) ∧
      (block.start < block.objectStart ∧ block.objectStart < block.objectStop ∧
        block.objectStop < block.stop ∧ block.stop ≤ byteSize t) ∧
      ∃ before cut after, t = before ++ (cut ++ after) ∧ byteSize before = block.start ∧
        byteSize (before ++ cut) = block.stop ∧ (InitSettings.extract t).2 = before ++ after := by
  refine ⟨⟨fun h => ?_, ?_⟩, fun block h => ⟨opens_of_find? h, fun _ _ _ _ => start_le h,
    fun _ _ => objectStop_le h, fun _ => isBoundary_of_mem h, offsets_lt h, ?_⟩⟩
  · obtain ⟨block, h⟩ := Option.isSome_iff_exists.mp h
    exact ⟨_, _, _, _, opens_of_find? h⟩
  · rintro ⟨start, objectStart, objectStop, stop, hopens, hcloses⟩
    obtain ⟨x, y, rfl, -, hy⟩ := exists_front?_of_opens hopens hcloses
    obtain ⟨block, hblock, -⟩ := exists_find?_of_front? x hy
    rw [hblock]
    rfl
  · refine ⟨block.before, block.opening ++ (block.object ++ block.closing), block.after, ?_,
      rfl, ?_, ?_⟩
    · rw [(find?_eq_some h).1, whole]
      simp
    · simp only [byteSize_append, stop, objectStop, objectStart, start]
      omega
    · rw [InitSettings.extract, h]
      rfl

end FlowTidy.InitBlock
