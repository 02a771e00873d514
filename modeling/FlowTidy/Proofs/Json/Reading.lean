import FlowTidy.Proofs.Json.Loose

/-!
Compact JSON is one of the loose spellings of a value, so it is read back. In a string each
character is written as it is or by an escape that stands for it, and the members of an object are
written in order.
-/

namespace FlowTidy.Literal

open Scanner Text Json Spelling

/-! ## Strings -/

theorem hexCode_control {n : Nat} (h : n < 0x20) :
    HexCode ['0', '0', Nat.digitChar (n / 16), Nat.digitChar (n % 16)] n := by
  refine ⟨[0, 0, n / 16, n % 16], ?_, rfl, ?_⟩
  · exact .cons ⟨by decide, .inl rfl⟩ <| .cons ⟨by decide, .inl rfl⟩ <|
      .cons ⟨by omega, .inl rfl⟩ <| .cons ⟨by omega, .inl rfl⟩ .nil
  · simp only [List.foldl_cons, List.foldl_nil]
    omega

/-- Characters are written as they are or by their escapes. -/
theorem inside_escapeChar (c : Char) {t s : Text} (h : Inside '"' t s) :
    Inside '"' (c :: t) (escapeChar c ++ s) := by
  unfold escapeChar
  split
  case h_8 hquote hbackslash _ _ _ _ _ =>
    split
    · next hcontrol => exact .escaped (.code (hexCode_control hcontrol)) h
    · exact .raw hquote hbackslash h
  all_goals exact .escaped (.letter (by decide)) h

theorem escapeChar_ne_nil (c : Char) : escapeChar c ≠ [] := by
  unfold escapeChar
  split
  case h_8 => split <;> exact List.cons_ne_nil _ _
  all_goals exact List.cons_ne_nil _ _

theorem quoted_renderString (t : Text) : Quoted t (renderString t) := by
  have hinside : Inside '"' t (t.flatMap escapeChar) := by
    induction t with
    | nil => exact .nil
    | cons c t ih =>
      rw [List.flatMap_cons]
      exact inside_escapeChar c ih
  exact .double hinside

/-! ## Values -/

theorem loose_of_bare {v : Json} {s : Text} (h : Bare v s) : Loose v s := by
  simpa using Loose.padded blank_nil h blank_nil

theorem loose_string (t : Text) : Loose (.string t) (Json.string t).render := by
  rw [render]
  exact loose_of_bare (.string (quoted_renderString t))

theorem renderMembers_eq_map (members : List (Text × Json)) :
    renderMembers members = members.map fun m => renderString m.1 ++ ':' :: m.2.render := by
  induction members with
  | nil => rfl
  | cons m members ih =>
    obtain ⟨key, v⟩ := m
    rw [renderMembers, ih, List.map_cons]

theorem listed_joined {α : Type} {Item : α → Text → Prop} {spell : α → Text} {xs : List α}
    (h : ∀ x ∈ xs, Item x (spell x)) : Listed Item xs (joined [','] (xs.map spell)) := by
  induction xs with
  | nil => exact .none (by simp [joined, Blank])
  | cons x xs ih =>
    obtain ⟨hx, hmore⟩ := List.forall_mem_cons.mp h
    cases xs with
    | nil => exact .last (by simpa [joined] using hx)
    | cons y xs =>
      have hjoined : joined [','] ((x :: y :: xs).map spell) =
          spell x ++ ',' :: joined [','] ((y :: xs).map spell) := by simp [joined]
      rw [hjoined]
      exact .more hx (ih hmore)

theorem loose_object {members : List (Text × Json)} (hsorted : Ascending members)
    (h : ∀ m ∈ members, Loose m.2 m.2.render) :
    Loose (.object members) (Json.object members).render := by
  have hmember : ∀ m ∈ members, Member m (renderString m.1 ++ ':' :: m.2.render) := by
    rintro ⟨key, v⟩ hm
    exact Member.pair blank_nil (.quoted (quoted_renderString key)) blank_nil (h _ hm)
  rw [render, renderMembers_eq_map]
  exact loose_of_bare (.object hsorted (.refl members) (listed_joined hmember))

/-- A value is read back from its JSON, if that is a loose spelling. -/
theorem read?_render {v : Json} (h : Loose v v.render) : read? v.render = some v :=
  whole?_eq_some_iff.mpr (value_of_loose h (Nat.lt_succ_self _))

end FlowTidy.Literal
