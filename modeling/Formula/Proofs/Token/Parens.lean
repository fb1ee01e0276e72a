import Formula.Proofs.Lexeme.Reads

/-!
# The depth of parentheses

- `Kind.depthBehind`: how deep in parentheses the source is behind some tokens.
- `Kind.balanced_iff`, `Kind.balanced_iff_forall`: parentheses are balanced if the depth is kept.
- `Lexeme.depthBehind_first`: a lexeme outside string literals changes the depth as its first character does.
- `Lexeme.ReadsLiteral.balanced`, `Lexeme.ReadsBody.depthBehind`: the parentheses of a literal are balanced, and an
  interpolation ends where its own depth is zero.
-/

namespace Formula

namespace Kind

/-- The depth of parentheses behind tokens of these kinds, if none of them closes more than is open. -/
def depthBehind (d : Nat) : List Kind → Option Nat
  | [] => some d
  | symbol .leftParen :: ks => depthBehind (d + 1) ks
  | symbol .rightParen :: ks =>
    match d with
    | 0 => none
    | d + 1 => depthBehind d ks
  | _ :: ks => depthBehind d ks

section Depth

variable (d : Nat) (k : Kind) (ks ks' : List Kind)

@[simp] theorem depthBehind_nil : depthBehind d [] = some d := rfl

@[simp] theorem depthBehind_leftParen : depthBehind d (symbol .leftParen :: ks) = depthBehind (d + 1) ks := rfl

/-- Other kinds keep the depth. -/
theorem depthBehind_cons (h : k ≠ symbol .leftParen) (h' : k ≠ symbol .rightParen) :
    depthBehind d (k :: ks) = depthBehind d ks := by
  rw [depthBehind]
  · exact h
  · exact h'

theorem depthBehind_append : depthBehind d (ks ++ ks') = (depthBehind d ks).bind fun d' => depthBehind d' ks' := by
  fun_induction depthBehind d ks with
  | case1 => rfl
  | case2 d ks ih => exact ih
  | case3 ks => rfl
  | case4 ks d ih => exact ih
  | case5 d k ks h h' ih => rw [List.cons_append, depthBehind_cons _ _ _ h h', ih]

end Depth

/-! ## Counts -/

/-- How many parentheses are opened. -/
def opened (ks : List Kind) : Nat := ks.countP (· = symbol .leftParen)

/-- How many parentheses are closed. -/
def closed (ks : List Kind) : Nat := ks.countP (· = symbol .rightParen)

/-- Parentheses are balanced: none is closed before it is opened, and in the end all are closed. -/
def Balanced (ks : List Kind) : Prop := (∀ us, us <+: ks → closed us ≤ opened us) ∧ closed ks = opened ks

@[simp] theorem closed_nil : closed [] = 0 := rfl

@[simp] theorem opened_nil : opened [] = 0 := rfl

theorem closed_cons (k : Kind) (ks : List Kind) :
    closed (k :: ks) = closed ks + if k = symbol .rightParen then 1 else 0 := by
  simp [closed, List.countP_cons]

theorem opened_cons (k : Kind) (ks : List Kind) :
    opened (k :: ks) = opened ks + if k = symbol .leftParen then 1 else 0 := by
  simp [opened, List.countP_cons]

theorem forall_prefix_cons {P : List Kind → Prop} (k : Kind) (ks : List Kind) :
    (∀ us, us <+: k :: ks → P us) ↔ P [] ∧ ∀ us, us <+: ks → P (k :: us) := by
  constructor
  · intro h
    exact ⟨h [] List.nil_prefix, fun us hus => h _ ((List.prefix_cons_inj k).mpr hus)⟩
  · rintro ⟨h, h'⟩ us hus
    rcases List.prefix_cons_iff.mp hus with rfl | ⟨vs, rfl, hvs⟩
    · exact h
    · exact h' vs hvs

/-- The depth counts the parentheses, and is there if it never falls below zero. -/
theorem depthBehind_eq_some_iff (d e : Nat) (ks : List Kind) : depthBehind d ks = some e ↔
    (∀ us, us <+: ks → closed us ≤ d + opened us) ∧ closed ks + e = d + opened ks := by
  fun_induction depthBehind d ks with
  | case1 d => simp [eq_comm]
  | case2 d ks ih =>
    simp [forall_prefix_cons, closed_cons, opened_cons, ih, Nat.add_assoc, Nat.add_comm 1]
  | case3 ks =>
    have hlow : ¬ ∀ us, us <+: symbol .rightParen :: ks → closed us ≤ 0 + opened us := fun h => by
      simpa [closed_cons, opened_cons] using h [symbol .rightParen] (by simp)
    exact ⟨nofun, fun h => absurd h.1 hlow⟩
  | case4 ks d ih =>
    simp only [ih, forall_prefix_cons, closed_cons, opened_cons, closed_nil, opened_nil, if_true, reduceCtorEq,
      if_false, symbol.injEq, Nat.add_zero, Nat.zero_le, true_and, Nat.add_right_comm d 1, Nat.add_right_comm _ 1 e,
      Nat.add_le_add_iff_right, Nat.add_right_cancel_iff]
  | case5 d k ks h h' ih =>
    have hk : (k = symbol .leftParen) = False := eq_false h
    have hk' : (k = symbol .rightParen) = False := eq_false h'
    simp [forall_prefix_cons, closed_cons, opened_cons, ih, hk, hk']

theorem balanced_iff (ks : List Kind) : Balanced ks ↔ depthBehind 0 ks = some 0 := by
  simp [Balanced, depthBehind_eq_some_iff]

/-- Inside more parentheses, the depth changes alike. -/
theorem depthBehind_add {d e : Nat} {ks : List Kind} (n : Nat) (h : depthBehind d ks = some e) :
    depthBehind (d + n) ks = some (e + n) := by
  rw [depthBehind_eq_some_iff] at h ⊢
  refine ⟨fun us hus => ?_, by omega⟩
  have := h.1 us hus
  omega

/-! ## Balance -/

/-- Parentheses are balanced if the depth is kept, inside any others. -/
theorem balanced_iff_forall (ks : List Kind) : Balanced ks ↔ ∀ d, depthBehind d ks = some d := by
  rw [balanced_iff]
  constructor
  · intro h d
    have := depthBehind_add d h
    rwa [Nat.zero_add] at this
  · intro h
    exact h 0

theorem balanced_nil : Balanced [] := (balanced_iff _).mpr rfl

theorem balanced_singleton {k : Kind} (hk : k ≠ symbol .leftParen) (hk' : k ≠ symbol .rightParen) : Balanced [k] := by
  rw [balanced_iff, depthBehind_cons _ _ _ hk hk', depthBehind_nil]

namespace Balanced

variable {k : Kind} {ks ks' : List Kind}

theorem depthBehind (h : Balanced ks) (d : Nat) : Kind.depthBehind d ks = some d := (balanced_iff_forall ks).mp h d

theorem append (h : Balanced ks) (h' : Balanced ks') : Balanced (ks ++ ks') := by
  rw [balanced_iff_forall]
  intro d
  rw [depthBehind_append, h.depthBehind]
  exact h'.depthBehind d

theorem cons (h : Balanced ks) (hk : k ≠ symbol .leftParen) (hk' : k ≠ symbol .rightParen) : Balanced (k :: ks) := by
  rw [balanced_iff_forall]
  intro d
  rw [depthBehind_cons _ _ _ hk hk']
  exact h.depthBehind d

theorem parens (h : Balanced ks) : Balanced (symbol .leftParen :: ks ++ [symbol .rightParen]) := by
  rw [balanced_iff_forall]
  intro d
  rw [List.cons_append, depthBehind_leftParen, depthBehind_append, h.depthBehind]
  rfl

end Balanced

/-- Tokens that the grammar does not see keep the depth. -/
theorem depthBehind_filter (d : Nat) (ks : List Kind) :
    depthBehind d (ks.filter isSignificant) = depthBehind d ks := by
  induction ks generalizing d with
  | nil => rfl
  | cons k ks ih =>
    by_cases hl : k = symbol .leftParen
    · subst hl
      exact ih (d + 1)
    by_cases hr : k = symbol .rightParen
    · subst hr
      cases d with
      | zero => rfl
      | succ d => exact ih d
    rw [List.filter_cons, depthBehind_cons _ _ _ hl hr]
    split
    · rw [depthBehind_cons _ _ _ hl hr, ih]
    · exact ih d

end Kind

/-! ## Symbols in the source -/

theorem Kind.ofName_ne_symbol (name : String) (s : Symbol) : ofName name ≠ symbol s := by
  unfold ofName keyword?
  split <;> simp

namespace Form

theorem ofChar?_of_ofChar {c : Char} {s : Symbol} (h : ofChar c = symbol s) : Symbol.ofChar? c = some s := by
  unfold ofChar at h
  split at h
  · cases h
  split at h
  · cases h
  split at h
  · cases h
  split at h
  · cases h
  split at h
  · cases h
  split at h
  · rename_i hs
    cases h
    exact hs
  · cases h

/-- A symbol reaches as far as it is spelled. -/
theorem chars_symbolOf {s : Symbol} {c : Char} (h : s.chars = [c]) (cs : List Char) :
    (symbolOf s (c :: cs.take ((symbol s).extent cs))).chars = c :: cs.take ((symbol s).extent cs) := by
  cases cs with
  | nil => simp [extent, symbolOf, h]
  | cons c' cs =>
    cases he : s.extend? c' with
    | none => simp [extent, symbolOf, h, he]
    | some t => simp [extent, symbolOf, he, Symbol.extend?_eq_some_iff.mp he, h]

end Form

namespace Lexeme

/-- A symbol is written as it is spelled. -/
theorem chars_first_of_kind {c : Char} {cs : List Char} {s : Symbol} (h : (first c cs).kind = .symbol s) :
    (first c cs).chars = s.chars := by
  simp only [first, extent] at h ⊢
  cases hf : Form.ofChar c with
  | symbol s' =>
    rw [hf] at h
    have hs : s'.chars = [c] := Symbol.ofChar?_eq_some_iff.mp (Form.ofChar?_of_ofChar hf)
    rw [← Kind.symbol.inj h]
    exact (Form.chars_symbolOf hs cs).symm
  | name =>
    rw [hf] at h
    exact absurd h (Kind.ofName_ne_symbol _ _)
  | _ => simp [hf, Form.kind] at h

/-- A symbol that goes on with no character is one lexeme, whatever follows. -/
theorem first_symbol {c : Char} {s : Symbol} (h : Form.ofChar c = .symbol s) (h' : ∀ d, s.extend? d = none)
    (cs : List Char) : first c cs = ⟨.symbol s, [c]⟩ ∧ after c cs = cs := by
  have hextent : extent c cs = 0 := by
    rw [extent, h]
    cases cs with
    | nil => rfl
    | cons d ds => simp [Form.extent, h' d]
  constructor
  · rw [first, hextent, h]
    rfl
  · rw [after, hextent, List.drop_zero]

theorem first_leftParen (cs : List Char) : first '(' cs = ⟨.symbol .leftParen, ['(']⟩ :=
  (first_symbol (by decide) (fun _ => rfl) cs).1

theorem first_rightParen (cs : List Char) : first ')' cs = ⟨.symbol .rightParen, [')']⟩ :=
  (first_symbol (by decide) (fun _ => rfl) cs).1

theorem after_leftParen (cs : List Char) : after '(' cs = cs :=
  (first_symbol (s := .leftParen) (by decide) (fun _ => rfl) cs).2

theorem after_rightParen (cs : List Char) : after ')' cs = cs :=
  (first_symbol (s := .rightParen) (by decide) (fun _ => rfl) cs).2

/-! ## Parentheses in the source -/

/-- A lexeme outside string literals changes the depth as its first character does. -/
theorem depthBehind_first {d : Nat} {c : Char} (cs : List Char) (ks : List Kind) (h : ¬(c = ')' ∧ d = 0)) :
    Kind.depthBehind d ((first c cs).kind :: ks) = Kind.depthBehind (depthAfter d c) ks := by
  by_cases hl : c = '('
  · subst hl
    rw [first_leftParen]
    rfl
  by_cases hr : c = ')'
  · subst hr
    obtain ⟨d, rfl⟩ := Nat.exists_eq_succ_of_ne_zero fun hd => h ⟨rfl, hd⟩
    rw [first_rightParen]
    rfl
  · rw [Kind.depthBehind_cons, depthAfter, if_neg hl, if_neg hr]
    · intro hk
      exact hl (List.cons.inj (chars_first_of_kind hk)).1
    · intro hk
      exact hr (List.cons.inj (chars_first_of_kind hk)).1

theorem balanced_stringStart {ls : List Lexeme} (h : Kind.Balanced (ls.map (·.kind))) :
    Kind.Balanced ((stringStart :: ls).map (·.kind)) := h.cons nofun nofun

mutual

/-- The parentheses of a literal are balanced. -/
theorem ReadsLiteral.balanced : ∀ {cs : List Char} {ls : List Lexeme} {r : List Char}, ReadsLiteral cs ls r →
    Kind.Balanced (ls.map (·.kind))
  | _, _, _, .close => Kind.balanced_singleton nofun nofun
  | _, _, _, .text _ _ hl => hl.balanced.cons nofun nofun
  | _, _, _, .interpolation hb hl => by
    have hinner := (Kind.balanced_iff _).mpr hb.depthBehind
    have houter := hl.balanced.cons (k := interpolationEnd.kind) nofun nofun
    rw [List.cons_append, List.map_cons, List.map_append, List.map_cons]
    exact (hinner.append houter).cons nofun nofun

/-- An interpolation ends where its own depth is zero. -/
theorem ReadsBody.depthBehind : ∀ {d : Nat} {cs : List Char} {ls : List Lexeme} {r : List Char},
    ReadsBody d cs ls r → Kind.depthBehind d (ls.map (·.kind)) = some 0
  | _, _, _, _, .close => rfl
  | d, _, _, _, .literal hl hb => by
    rw [List.map_append, Kind.depthBehind_append, (balanced_stringStart hl.balanced).depthBehind]
    exact hb.depthBehind
  | _, _, _, _, .other h _ hb => by
    rw [List.map_cons, depthBehind_first _ _ h]
    exact hb.depthBehind

end

end Lexeme

end Formula
