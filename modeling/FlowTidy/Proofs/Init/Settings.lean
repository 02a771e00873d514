import FlowTidy.Init.Settings
import FlowTidy.Proofs.Init.Block
import FlowTidy.Proofs.Json.Reading

/-!
Settings that are written as JSON are read back from an init block. The braces of the object and of
its theme variables do no harm, since only the last of them has the closing mark behind it. A string
can hold a brace and a closing mark itself, and the object then ends inside that string. With
variables that have no braces this depends on the theme alone (`ClosesBlock`).
-/

namespace FlowTidy

open Text InitBlock

/-! ## Escapes -/

namespace Json

/-- The characters that escapes are spelled with. -/
def isEscaping (c : Char) : Bool := isWord c || c == '"' || c == '\\'

theorem escapeChar_eq_singleton_iff {c : Char} :
    escapeChar c = [c] ↔ 0x20 ≤ c.toNat ∧ c ≠ '"' ∧ c ≠ '\\' := by
  unfold escapeChar
  split
  case h_8 hquote hbackslash _ _ _ _ _ =>
    split
    · next hcontrol => simp [Nat.not_le.mpr hcontrol]
    · next hplain => exact ⟨fun _ => ⟨Nat.not_lt.mp hplain, hquote, hbackslash⟩, fun _ => rfl⟩
  all_goals decide

/-- A character is written as it is, or by characters of escapes alone. -/
theorem escapeChar_eq_or (c : Char) :
    escapeChar c = [c] ∨ ∀ d ∈ escapeChar c, isEscaping d = true := by
  have hdigits : ∀ n < 0x20,
      ∀ d ∈ ['\\', 'u', '0', '0', Nat.digitChar (n / 16), Nat.digitChar (n % 16)],
        isEscaping d = true := by decide
  unfold escapeChar
  split
  case h_8 =>
    split
    · next hcontrol => exact .inr (hdigits _ hcontrol)
    · exact .inl rfl
  all_goals exact .inr (by decide)

/-- A character that escapes are not spelled with stands for itself. -/
theorem eq_of_mem_escapeChar {c d : Char} (hc : isEscaping c = false) (h : c ∈ escapeChar d) :
    d = c ∧ escapeChar c = [c] := by
  rcases escapeChar_eq_or d with hd | hd
  · rw [hd] at h
    obtain rfl := List.mem_singleton.mp h
    exact ⟨rfl, hd⟩
  · have hescaping := hd c h
    rw [hc] at hescaping
    contradiction

theorem mem_of_mem_escaped {c : Char} {t : Text} (hc : isEscaping c = false)
    (h : c ∈ t.flatMap escapeChar) : c ∈ t := by
  obtain ⟨d, hd, hmem⟩ := List.mem_flatMap.mp h
  rwa [← (eq_of_mem_escapeChar hc hmem).1]

/-- A text that shares no character with the escapes is at the front of an escaped string only if it
is at the front of the string. -/
theorem isPrefix_of_escaped {w t : Text} (hw : ∀ c ∈ w, isEscaping c = false)
    (h : w <+: t.flatMap escapeChar) : w <+: t ∧ ∀ c ∈ w, escapeChar c = [c] := by
  induction w generalizing t with
  | nil => simp
  | cons c w ih =>
    obtain ⟨hc, hrest⟩ := List.forall_mem_cons.mp hw
    cases t with
    | nil => simp at h
    | cons d t =>
      obtain ⟨e, es, hes⟩ := List.exists_cons_of_ne_nil (Literal.escapeChar_ne_nil d)
      rw [List.flatMap_cons, hes, List.cons_append, List.cons_prefix_cons] at h
      obtain ⟨rfl, h⟩ := h
      obtain ⟨rfl, hself⟩ := eq_of_mem_escapeChar hc (hes ▸ List.mem_cons_self)
      obtain rfl : es = [] := (List.cons.inj (hes.symm.trans hself)).2
      obtain ⟨hpre, hall⟩ := ih hrest h
      exact ⟨List.cons_prefix_cons.mpr ⟨rfl, hpre⟩, List.forall_mem_cons.mpr ⟨hself, hall⟩⟩

/-- An escaped text holds a word without escapes where the text itself does. -/
theorem infix_escaped_iff {w t : Text} (hne : w ≠ []) (hw : ∀ c ∈ w, isEscaping c = false) :
    w <:+: t.flatMap escapeChar ↔ w <:+: t ∧ ∀ c ∈ w, escapeChar c = [c] := by
  constructor
  · intro h
    induction t with
    | nil => exact absurd (List.infix_nil.mp h) hne
    | cons d t ih =>
      rcases escapeChar_eq_or d with hd | hd
      · rw [List.flatMap_cons, hd, List.singleton_append, List.infix_cons_iff] at h
        rcases h with h | h
        · rw [← List.singleton_append, ← hd, ← List.flatMap_cons] at h
          obtain ⟨hpre, hall⟩ := isPrefix_of_escaped hw h
          exact ⟨hpre.isInfix, hall⟩
        · obtain ⟨hin, hall⟩ := ih h
          exact ⟨List.infix_cons hin, hall⟩
      · -- the escape of the first character has no part in the word
        have hrest : w <:+: t.flatMap escapeChar := by
          refine infix_append_left hne (fun c hc hmem => ?_) h
          have hescaping := hd c hc
          rw [hw c hmem] at hescaping
          contradiction
        obtain ⟨hin, hall⟩ := ih hrest
        exact ⟨List.infix_cons hin, hall⟩
  · rintro ⟨⟨s, r, rfl⟩, hall⟩
    have hself : w.flatMap escapeChar = w :=
      (List.flatMap_congr hall).trans (List.flatMap_singleton' w)
    rw [List.flatMap_append, List.flatMap_append, hself]
    exact ⟨_, _, rfl⟩

end Json

/-! ## Settings as JSON -/

namespace InitSettings

open Json Literal

/-- Settings as a JSON object. -/
def json (s : InitSettings) : Json :=
  .object [(themeKey, .string s.theme),
    (variablesKey, .object (s.themeVariables.map fun v => (v.1, .string v.2)))]

/-- The init block that holds settings as compact JSON. -/
def block (s : InitSettings) : Text := openingMark ++ ' ' :: (s.json.render ++ closingMark)

/-- A text with a brace and a closing mark, and between them blanks that JSON does not escape. -/
def ClosesBlock (t : Text) : Prop :=
  ∃ b : Text, (∀ c ∈ b, isBlank c = true ∧ 0x20 ≤ c.toNat) ∧ '}' :: (b ++ closingMark) <:+: t

theorem ne_of_isBlank {c : Char} (h : isBlank c = true) : c ≠ '"' ∧ c ≠ '\\' := by
  constructor <;> (rintro rfl; contradiction)

/-- Whether a theme closes the block shows in its escaped text. -/
theorem closesBlock_iff {t : Text} :
    ClosesBlock t ↔ ∃ b : Text, b.Blank ∧ '}' :: (b ++ closingMark) <:+: t.flatMap escapeChar := by
  have hbare : ∀ {b : Text}, b.Blank → ∀ c ∈ '}' :: (b ++ closingMark), isEscaping c = false := by
    intro b hb
    refine List.forall_mem_cons.mpr ⟨by decide,
      List.forall_mem_append.mpr ⟨fun c hc => ?_, by decide⟩⟩
    obtain ⟨hquote, hbackslash⟩ := ne_of_isBlank (hb c hc)
    simp [isEscaping, isWord_of_isBlank (hb c hc), hquote, hbackslash]
  constructor
  · rintro ⟨b, hb, hin⟩
    have hblank : b.Blank := fun c hc => (hb c hc).1
    have hself : ∀ c ∈ '}' :: (b ++ closingMark), escapeChar c = [c] := by
      refine List.forall_mem_cons.mpr ⟨rfl, List.forall_mem_append.mpr ⟨fun c hc => ?_, by decide⟩⟩
      exact escapeChar_eq_singleton_iff.mpr ⟨(hb c hc).2, ne_of_isBlank (hblank c hc)⟩
    exact ⟨b, hblank, (infix_escaped_iff (List.cons_ne_nil _ _) (hbare hblank)).mpr ⟨hin, hself⟩⟩
  · rintro ⟨b, hb, hin⟩
    obtain ⟨hin, hself⟩ := (infix_escaped_iff (List.cons_ne_nil _ _) (hbare hb)).mp hin
    refine ⟨b, fun c hc => ⟨hb c hc, ?_⟩, hin⟩
    exact (escapeChar_eq_singleton_iff.mp (hself c (by simp [hc]))).1

/-! ## The text of the object -/

/-- The text of the object between the brace that opens it and the theme. -/
def beforeTheme : Text := renderString themeKey ++ [':', '"']

/-- The text of the object between the quote after the theme and the two braces at its end. -/
def afterTheme (s : InitSettings) : Text :=
  ',' :: (renderString variablesKey ++ ':' :: '{' ::
    joined [','] (renderMembers (s.themeVariables.map fun v => (v.1, .string v.2))))

/-- The text of the object after the brace that opens it. -/
def body (s : InitSettings) : Text :=
  beforeTheme ++ (s.theme.flatMap escapeChar ++ ('"' :: s.afterTheme ++ ['}', '}']))

theorem render_json (s : InitSettings) : s.json.render = '{' :: s.body := by
  simp [json, render, renderMembers, joined_cons, body, beforeTheme, afterTheme, renderString]

theorem brace_not_mem_renderString {t : Text} (h : '}' ∉ t) : '}' ∉ renderString t := by
  have hescaped : '}' ∉ t.flatMap escapeChar := fun hmem => h (mem_of_mem_escaped (by decide) hmem)
  rw [renderString]
  simpa using hescaped

theorem brace_not_mem_afterTheme {s : InitSettings}
    (h : ∀ v ∈ s.themeVariables, '}' ∉ v.1 ∧ '}' ∉ v.2) : '}' ∉ s.afterTheme := by
  have hkey : '}' ∉ renderString variablesKey := by decide
  have hmembers : '}' ∉
      joined [','] (renderMembers (s.themeVariables.map fun v => (v.1, .string v.2))) := by
    intro hmem
    obtain ⟨piece, hpiece, hin⟩ := infix_joined (List.cons_ne_nil _ _) (by decide)
      ((List.singleton_infix_iff _ _).mpr hmem)
    rw [renderMembers_eq_map, List.map_map, List.mem_map] at hpiece
    obtain ⟨v, hv, rfl⟩ := hpiece
    have hfirst := brace_not_mem_renderString (h v hv).1
    have hsecond := brace_not_mem_renderString (h v hv).2
    have hbrace := (List.singleton_infix_iff _ _).mp hin
    simp [render, hfirst, hsecond] at hbrace
  simp [afterTheme, hkey, hmembers]

/-- The two braces at the end of the object: the first has no closing mark behind it. -/
theorem objectEnd?_braces (after : Text) :
    objectEnd? (['}', '}'] ++ (closingMark ++ after)) =
      some (['}', '}'], closingMark, after) := by
  have hfirst : closing? ('}' :: (closingMark ++ after)) = none := rfl
  have hsecond : objectEnd? ('}' :: (closingMark ++ after)) = some (['}'], closingMark, after) :=
    objectEnd?_brace (closing?_append blank_nil after)
  rw [List.cons_append, List.singleton_append, objectEnd?, if_pos rfl, hfirst, hsecond]
  rfl

/-- If no variable has a closing brace and the theme does not close the block, the object ends at
its last brace. -/
theorem objectEnd?_body {s : InitSettings}
    (hbrace : ∀ v ∈ s.themeVariables, '}' ∉ v.1 ∧ '}' ∉ v.2)
    (htheme : ¬ ClosesBlock s.theme) (after : Text) :
    objectEnd? (s.body ++ (closingMark ++ after)) = some (s.body, closingMark, after) := by
  have hafter : '}' ∉ '"' :: s.afterTheme := by
    simpa using brace_not_mem_afterTheme hbrace
  rw [body, List.append_assoc, List.append_assoc, List.append_assoc,
    objectEnd?_append_of_not_mem (by decide), objectEnd?_append,
    objectEnd?_append_of_not_mem hafter, objectEnd?_braces]
  · rfl
  · -- a closing mark behind a brace of the theme would be in the theme, since the quote after it
    -- ends it
    intro x y hxy
    rw [Option.eq_none_iff_forall_ne_some]
    rintro ⟨closing, rest⟩ hclosing
    obtain ⟨b, hb, rfl, hy⟩ := closing?_eq_some_iff.mp hclosing
    have hquote : '"' ∉ b ++ closingMark := by
      refine fun hmem => (List.mem_append.mp hmem).elim (fun hmem => ?_) (by decide)
      exact (ne_of_isBlank (hb _ hmem)).1 rfl
    obtain ⟨z, rfl⟩ := isPrefix_of_append_cons hquote ⟨rest, hy.symm⟩
    exact htheme (closesBlock_iff.mpr ⟨b, hb, x, z, by simp [hxy]⟩)

/-- A theme that closes the block leaves part of the object outside. -/
theorem exists_objectEnd?_body {s : InitSettings} (h : ClosesBlock s.theme) (after : Text) :
    ∃ object closing after', after.length < after'.length ∧
      objectEnd? (s.body ++ (closingMark ++ after)) = some (object, closing, after') := by
  obtain ⟨b, hb, x, y, hxy⟩ := closesBlock_iff.mp h
  let left : Text := y ++ ('"' :: s.afterTheme ++ ['}', '}']) ++ (closingMark ++ after)
  obtain ⟨object, closing, after', hend, hle⟩ :=
    exists_objectEnd? (beforeTheme ++ x) (closing?_append hb left)
  refine ⟨object, closing, after', ?_, ?_⟩
  · simp only [left, List.length_append, List.length_cons] at hle
    omega
  · rw [← hend, body, ← hxy]
    simp [left]

/-! ## Reading settings back -/

theorem read?_render_json {s : InitSettings} (hsorted : Ascending s.themeVariables) :
    read? s.json.render = some s.json := by
  have hkeys : before themeKey variablesKey = true := by decide
  refine Literal.read?_render (loose_object (List.pairwise_pair.mpr hkeys) ?_)
  refine List.forall_mem_cons.mpr ⟨loose_string _, List.forall_mem_singleton.mpr ?_⟩
  refine loose_object (List.pairwise_map.mpr hsorted) fun m hm => ?_
  obtain ⟨v, -, rfl⟩ := List.mem_map.mp hm
  exact loose_string _

/-- Settings are read back from their JSON. -/
theorem ofObject_render_json {s : InitSettings} (hsorted : Ascending s.themeVariables) :
    ofObject s.json.render = .ok s := by
  have htheme : ∀ v w : Json, member? themeKey [(themeKey, v), (variablesKey, w)] = some v :=
    fun v w => rfl
  have hvariables : ∀ v w : Json,
      member? variablesKey [(themeKey, v), (variablesKey, w)] = some w :=
    fun v w => rfl
  have hsettings : (s.themeVariables.map fun v => (v.1, Json.string v.2)).map
      (fun v => (v.1, v.2.asSetting)) = s.themeVariables := by
    rw [List.map_map]
    exact List.map_id _
  rw [ofObject, read?_render_json hsorted, json]
  simp only [htheme, hvariables, variablesOf, hsettings]
  rfl

/-- The block that is written for settings is found, wherever its object ends. -/
theorem find?_block {s : InitSettings} {before after object closing after' : Text}
    (hbefore : ¬ openingMark <:+: before)
    (hend : objectEnd? (s.body ++ (closingMark ++ after)) = some (object, closing, after')) :
    find? (before ++ s.block ++ after) = some
      { before, opening := openingMark ++ [' '], object := '{' :: object, closing,
        after := after' } := by
  have hfront := front?_append blank_space (s.body ++ (closingMark ++ after))
  rw [hend, Option.map_some] at hfront
  have htext : before ++ s.block ++ after =
      before ++ (openingMark ++ ([' '] ++ '{' :: (s.body ++ (closingMark ++ after)))) := by
    simp [block, render_json]
  rw [htext, find?_append hbefore hfront]

/-- Settings are read back from an init block that holds them as JSON, and the text around the block
is left, if and only if the theme does not close the block. -/
theorem extract_block_iff {s : InitSettings} (hsorted : Ascending s.themeVariables)
    (hbrace : ∀ v ∈ s.themeVariables, '}' ∉ v.1 ∧ '}' ∉ v.2) {before : Text}
    (hbefore : ¬ openingMark <:+: before) (after : Text) :
    extract (before ++ s.block ++ after) = (some s, before ++ after) ↔ ¬ ClosesBlock s.theme := by
  constructor
  · intro h hcloses
    obtain ⟨object, closing, after', hlt, hend⟩ := exists_objectEnd?_body hcloses after
    rw [extract, find?_block hbefore hend] at h
    have hrest : before ++ after' = before ++ after := (Prod.mk.inj h).2
    have hlength := congrArg List.length (List.append_cancel_left hrest)
    omega
  · intro htheme
    rw [extract, find?_block hbefore (objectEnd?_body hbrace htheme after)]
    simp only
    rw [← render_json, ofObject_render_json hsorted]
    rfl

/-- A brace in the theme does no harm when the closing mark is not right behind it. -/
theorem extract_block_iff_brace :
    Ascending [(['a'], ['\n']), (['b'], ['"', '%', '%'])] ∧ ¬ openingMark <:+: ['%', '%', '{'] ∧
      extract (['%', '%', '{'] ++
        block { theme := ['}', '"', '\\'],
                themeVariables := [(['a'], ['\n']), (['b'], ['"', '%', '%'])] } ++
        ['}', '%', '%']) =
        (some { theme := ['}', '"', '\\'],
                themeVariables := [(['a'], ['\n']), (['b'], ['"', '%', '%'])] },
          ['%', '%', '{'] ++ ['}', '%', '%']) := by
  have hsorted : Ascending [(['a'], ['\n']), (['b'], ['"', '%', '%'])] :=
    List.pairwise_pair.mpr (by decide)
  have hbefore : ¬ openingMark <:+: ['%', '%', '{'] :=
    not_infix_of_mem (c := ':') (by decide) (by decide)
  have htheme : ¬ ClosesBlock ['}', '"', '\\'] := by
    rintro ⟨b, -, hin⟩
    have hlength := hin.length_le
    simp [closingMark] at hlength
  exact ⟨hsorted, hbefore, (extract_block_iff hsorted (by decide) hbefore _).mpr htheme⟩

/-- A theme that closes the block: the settings are lost, and the end of the object stays in the
text. -/
theorem extract_block_closed_by_theme :
    extract (block { theme := ['}', '}', '%', '%'] }) =
        (some {}, '"' :: afterTheme {} ++ ['}', '}'] ++ closingMark) ∧
      extract (block { theme := ['}', '}', '%', '%'] }) ≠
        (some { theme := ['}', '}', '%', '%'] }, []) := by
  have h : extract (block { theme := ['}', '}', '%', '%'] }) =
      (some {}, '"' :: afterTheme {} ++ ['}', '}'] ++ closingMark) := by decide +kernel
  exact ⟨h, by rw [h]; decide +kernel⟩

end InitSettings

end FlowTidy
