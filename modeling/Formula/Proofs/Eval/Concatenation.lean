import Mathlib.Data.List.Forall2
import Mathlib.Data.List.Induction
import Formula.Proofs.Eval.Provenance

/-!
# String literals are concatenations

The pieces of a string literal are joined by `+`, but they are texts or `nil`, never numbers: a literal of two pieces or
more is the concatenation of their texts, or fails. It fails at the first step that does, where a step evaluates a piece
or joins it to those in front of it, and it is `nil` alone that cannot be joined.

- `JoinStep.order`: the steps of a literal.
- `Environment.Says`: the text of a piece.
- `Environment.eval_ofSegments_eq_text_iff`: a literal that has a text has those of its pieces, one behind the other.
- `Environment.error?_eval_ofSegments`: the error of a literal is that of the first step that fails.
- `Environment.AddsNil`, `Environment.firstFailing?_sum_iff`: when a step that joins is the first to fail.
- `Environment.eval_ofSegments_joins`: all of it about one literal.
-/

namespace Formula

/-- A piece of a string literal: a run of plain text, or an interpolation. -/
def Expr.isPiece : Expr → Bool
  | string _ | interpolation _ _ => true
  | _ => false

/-! ## The order of the steps -/

/-- What is done for a string literal. -/
inductive JoinStep where
  /-- The piece with the index is evaluated. -/
  | piece (i : Nat)
  /-- The piece behind the one with the index is joined to those in front of it. -/
  | sum (i : Nat)
  deriving DecidableEq, Repr

namespace JoinStep

/-- The steps for the piece with the index: all but the first are joined as soon as they are evaluated. -/
def forPiece : Nat → List JoinStep
  | 0 => [piece 0]
  | i + 1 => [piece (i + 1), sum i]

/-- The steps for so many pieces. -/
def order : Nat → List JoinStep
  | 0 => []
  | n + 1 => order n ++ forPiece n

/-- The steps are about the pieces that there are. -/
theorem cases_of_mem_order {n : Nat} {s : JoinStep} (h : s ∈ order n) :
    (∃ i < n, s = piece i) ∨ ∃ i, i + 1 < n ∧ s = sum i := by
  induction n with
  | zero => cases h
  | succ n ih =>
    rcases List.mem_append.mp h with h | h
    · rcases ih h with ⟨i, hi, rfl⟩ | ⟨i, hi, rfl⟩
      · exact .inl ⟨i, by omega, rfl⟩
      · exact .inr ⟨i, by omega, rfl⟩
    · cases n with
      | zero => exact .inl ⟨0, Nat.one_pos, List.mem_singleton.mp h⟩
      | succ n =>
        rcases List.mem_pair.mp h with rfl | rfl
        · exact .inl ⟨n + 1, by omega, rfl⟩
        · exact .inr ⟨n, by omega, rfl⟩

/-- The steps for fewer pieces come first. -/
theorem order_prefix {m n : Nat} (h : m ≤ n) : order m <+: order n := by
  induction n, h using Nat.le_induction with
  | base => exact List.prefix_rfl
  | succ n _ ih => exact ih.trans (List.prefix_append _ _)

end JoinStep

/-! ## Lists of pieces -/

theorem forall₂_concat_iff {α β : Type} {R : α → β → Prop} {xs : List α} {x : α} {zs : List β} :
    List.Forall₂ R (xs ++ [x]) zs ↔ ∃ ys y, zs = ys ++ [y] ∧ List.Forall₂ R xs ys ∧ R x y := by
  induction xs generalizing zs with
  | nil => simp [List.forall₂_cons_left_iff, and_comm]
  | cons a xs ih =>
    simp only [List.cons_append, List.forall₂_cons_left_iff, ih]
    constructor
    · rintro ⟨b, _, ha, ⟨ys, y, rfl, hys, hy⟩, rfl⟩
      exact ⟨b :: ys, y, rfl, ⟨b, ys, ha, hys, rfl⟩, hy⟩
    · rintro ⟨_, y, rfl, ⟨b, ys, ha, hys, rfl⟩, hy⟩
      exact ⟨b, ys ++ [y], ha, ⟨ys, y, rfl, hys, hy⟩, rfl⟩

theorem exists_forall₂_iff {α β : Type} {R : α → β → Prop} {xs : List α} :
    (∃ ys, List.Forall₂ R xs ys) ↔ ∀ x ∈ xs, ∃ y, R x y := by
  induction xs with
  | nil => simp
  | cons a xs ih =>
    rw [List.forall_mem_cons, ← ih]
    constructor
    · rintro ⟨_, h⟩
      cases h with
      | cons ha hxs => exact ⟨⟨_, ha⟩, _, hxs⟩
    · rintro ⟨⟨b, hb⟩, ys, hys⟩
      exact ⟨b :: ys, .cons hb hys⟩

theorem findSome?_congr {α β : Type} {f g : α → Option β} {xs : List α} (h : ∀ x ∈ xs, f x = g x) :
    xs.findSome? f = xs.findSome? g := by
  induction xs with
  | nil => rfl
  | cons x xs ih =>
    obtain ⟨hx, hxs⟩ := List.forall_mem_cons.mp h
    rw [List.findSome?_cons, List.findSome?_cons, hx, ih hxs]

/-! ## Texts of pieces -/

theorem Value.interpolate_eq_text_iff {φ : Type} {v : Value φ} {s : String} :
    v.interpolate = .text s ↔ v ≠ .nil ∧ v.toText = s := by
  cases v <;> simp [Value.interpolate]

namespace Environment

variable {φ : Type}

/-- The piece stands for the text: plain text for itself, and an interpolation for its value as it is displayed, which
is not `nil`. -/
inductive Says (env : Environment φ) : Expr → String → Prop
  | string (s : String) : Says env (.string s) s
  | interpolation {inner : Expr} {v : Value φ} (h : env.eval inner = .ok v) (hv : v ≠ .nil) (o : Nat) :
      Says env (.interpolation inner o) v.toText

variable {env : Environment φ} {e : Expr} {es : List Expr} {q : Nat}

/-- The value of a piece is a text, or `nil`. -/
theorem cases_of_eval_piece (he : e.isPiece = true) {v : Value φ} (h : env.eval e = .ok v) :
    v = .nil ∨ ∃ s, v = .text s := by
  cases e with
  | string s =>
    cases h
    exact .inr ⟨s, rfl⟩
  | interpolation inner o =>
    rw [eval] at h
    obtain ⟨w, -, hw⟩ := bind_eq_ok_iff.mp h
    cases hw
    cases w with
    | nil => exact .inl rfl
    | _ => exact .inr ⟨_, rfl⟩
  | _ => cases he

/-- The text of a piece is its value. -/
theorem says_iff (he : e.isPiece = true) {s : String} : env.Says e s ↔ env.eval e = .ok (.text s) := by
  cases e with
  | string t =>
    constructor
    · intro h
      cases h
      rfl
    · intro h
      cases h
      exact .string _
  | interpolation inner o =>
    rw [eval, bind_eq_ok_iff]
    constructor
    · intro h
      cases h with
      | interpolation h hv => exact ⟨_, h, congrArg Except.ok (Value.interpolate_eq_text_iff.mpr ⟨hv, rfl⟩)⟩
    · rintro ⟨v, h, hv⟩
      obtain ⟨hnil, rfl⟩ := Value.interpolate_eq_text_iff.mp (Except.ok.inj hv)
      exact .interpolation h hnil o
  | _ => cases he

/-- A piece stands for a text if it has a value other than `nil`. -/
theorem exists_says_iff (he : e.isPiece = true) : (∃ s, env.Says e s) ↔ ∃ v, env.eval e = .ok v ∧ v ≠ .nil := by
  constructor
  · rintro ⟨s, hs⟩
    exact ⟨.text s, (says_iff he).mp hs, nofun⟩
  · rintro ⟨v, hv, hnil⟩
    obtain ⟨s, rfl⟩ := (cases_of_eval_piece he hv).resolve_left hnil
    exact ⟨s, (says_iff he).mpr hv⟩

/-! ## Values -/

/-- A literal is joined to one more piece. -/
theorem eval_ofSegments_concat (env : Environment φ) (hne : es ≠ []) (e : Expr) (q : Nat) :
    env.eval (.ofSegments (es ++ [e]) q) =
      env.eval (.ofSegments es q) >>= fun l => env.eval e >>= fun r => BinaryOperator.applySum l r q := by
  rw [Expr.ofSegments_append_singleton hne, eval]
  rfl

/-- A sum of what pieces can be is a concatenation. -/
theorem applySum_eq_ok_iff {l r v : Value φ} (hl : l = .nil ∨ ∃ s, l = .text s) (hr : r = .nil ∨ ∃ s, r = .text s) :
    BinaryOperator.applySum l r q = .ok v ↔ ∃ s t, l = .text s ∧ r = .text t ∧ v = .text (s ++ t) := by
  rcases hl with rfl | ⟨s, rfl⟩ <;> rcases hr with rfl | ⟨t, rfl⟩ <;> simp [BinaryOperator.applySum, eq_comm]

/-- The value of a literal is a text, or it is a single piece that is `nil`. -/
theorem cases_of_eval_ofSegments (hes : ∀ e ∈ es, e.isPiece = true) {v : Value φ}
    (h : env.eval (.ofSegments es q) = .ok v) : (v = .nil ∧ es.length = 1) ∨ ∃ s, v = .text s := by
  induction es using List.reverseRecOn generalizing v with
  | nil =>
    cases h
    exact .inr ⟨"", rfl⟩
  | append_singleton es e ih =>
    have he : e.isPiece = true := hes e (by simp)
    by_cases hne : es = []
    · subst hne
      exact (cases_of_eval_piece he h).imp_left fun hv => ⟨hv, rfl⟩
    · rw [eval_ofSegments_concat env hne, bind_eq_ok_iff] at h
      obtain ⟨l, hl, h⟩ := h
      obtain ⟨r, hr, h⟩ := bind_eq_ok_iff.mp h
      have hfront := ih (fun d hd => hes d (List.mem_append_left _ hd)) hl
      obtain ⟨s, t, -, -, rfl⟩ :=
        (applySum_eq_ok_iff (hfront.imp_left And.left) (cases_of_eval_piece he hr)).mp h
      exact .inr ⟨s ++ t, rfl⟩

/-- A literal that has a text has those of its pieces, one behind the other. -/
theorem eval_ofSegments_eq_text_iff (hes : ∀ e ∈ es, e.isPiece = true) {t : String} :
    env.eval (.ofSegments es q) = .ok (.text t) ↔ ∃ ss, List.Forall₂ env.Says es ss ∧ t = String.join ss := by
  induction es using List.reverseRecOn generalizing t with
  | nil => simp [eval, eq_comm]
  | append_singleton es e ih =>
    have he : e.isPiece = true := hes e (by simp)
    have hfront : ∀ d ∈ es, d.isPiece = true := fun d hd => hes d (List.mem_append_left _ hd)
    by_cases hne : es = []
    · subst hne
      simp only [List.nil_append, Expr.ofSegments_singleton, ← says_iff he, List.forall₂_cons_left_iff,
        List.forall₂_nil_left_iff]
      constructor
      · intro h
        exact ⟨[t], ⟨t, [], h, rfl, rfl⟩, by simp⟩
      · rintro ⟨_, ⟨s, _, h, rfl, rfl⟩, rfl⟩
        simpa using h
    · rw [eval_ofSegments_concat env hne, bind_eq_ok_iff]
      constructor
      · rintro ⟨l, hl, h⟩
        obtain ⟨r, hr, h⟩ := bind_eq_ok_iff.mp h
        have hltext := (cases_of_eval_ofSegments hfront hl).imp_left And.left
        obtain ⟨a, b, rfl, rfl, hv⟩ := (applySum_eq_ok_iff hltext (cases_of_eval_piece he hr)).mp h
        obtain ⟨ss, hss, rfl⟩ := (ih hfront).mp hl
        refine ⟨ss ++ [b], forall₂_concat_iff.mpr ⟨ss, b, rfl, hss, (says_iff he).mpr hr⟩, ?_⟩
        rw [Value.text.inj hv, String.join_append, String.join_cons, String.join_nil, String.append_empty]
      · rintro ⟨_, hss, rfl⟩
        obtain ⟨ss, s, rfl, hss, hs⟩ := forall₂_concat_iff.mp hss
        refine ⟨_, (ih hfront).mpr ⟨ss, hss, rfl⟩, bind_eq_ok_iff.mpr ⟨_, (says_iff he).mp hs, ?_⟩⟩
        rw [BinaryOperator.applySum, String.join_append, String.join_cons, String.join_nil, String.append_empty]

/-! ## Errors -/

/-- The outcome of the piece with the index, if there is one. -/
def pieceAt? (env : Environment φ) (es : List Expr) (i : Nat) : Option (Except EvalError (Value φ)) :=
  es[i]?.map env.eval

/-- The error of a step, if it is one that fails. A sum is tried where both sides have values. -/
def stepError? (env : Environment φ) (es : List Expr) (q : Nat) : JoinStep → Option EvalError
  | .piece i => (env.pieceAt? es i).bind error?
  | .sum i =>
    match env.eval (.ofSegments (es.take (i + 1)) q), env.pieceAt? es (i + 1) with
    | .ok l, some (.ok r) => error? (BinaryOperator.add.apply l r q)
    | _, _ => none

/-- The first step that fails. -/
def firstFailing? (env : Environment φ) (es : List Expr) (q : Nat) : Option JoinStep :=
  (JoinStep.order es.length).find? fun s => (env.stepError? es q s).isSome

theorem pieceAt?_append_left {i : Nat} (es' : List Expr) (h : i < es.length) :
    env.pieceAt? (es ++ es') i = env.pieceAt? es i := by
  rw [pieceAt?, pieceAt?, List.getElem?_append_left h]

/-- The steps of a literal are the same if more pieces follow. -/
theorem stepError?_append (es' : List Expr) {s : JoinStep} (hs : s ∈ JoinStep.order es.length) :
    env.stepError? (es ++ es') q s = env.stepError? es q s := by
  rcases JoinStep.cases_of_mem_order hs with ⟨i, hi, rfl⟩ | ⟨i, hi, rfl⟩
  · rw [stepError?, stepError?, pieceAt?_append_left es' hi]
  · rw [stepError?, stepError?, pieceAt?_append_left es' hi, List.take_append_of_le_length (by omega)]

/-- The error of a literal is that of the first step that fails. -/
theorem error?_eval_ofSegments (env : Environment φ) (es : List Expr) (q : Nat) :
    error? (env.eval (.ofSegments es q)) = (JoinStep.order es.length).findSome? (env.stepError? es q) := by
  induction es using List.reverseRecOn with
  | nil => rfl
  | append_singleton es e ih =>
    have hfront : (JoinStep.order es.length).findSome? (env.stepError? (es ++ [e]) q) =
        error? (env.eval (.ofSegments es q)) := by
      rw [ih]
      exact findSome?_congr fun s hs => stepError?_append [e] hs
    have hlast : env.pieceAt? (es ++ [e]) es.length = some (env.eval e) := by simp [pieceAt?]
    have hpiece : env.stepError? (es ++ [e]) q (.piece es.length) = error? (env.eval e) := by
      rw [stepError?, hlast, Option.bind_some]
    rw [List.length_append, List.length_singleton, JoinStep.order, List.findSome?_append, hfront]
    cases hlen : es.length with
    | zero =>
      obtain rfl := List.length_eq_zero_iff.mp hlen
      rw [JoinStep.forPiece, List.findSome?_singleton]
      exact hpiece.symm
    | succ n =>
      have hne : es ≠ [] := by
        rintro rfl
        cases hlen
      have htake : (es ++ [e]).take (n + 1) = es := by rw [← hlen, List.take_left]
      rw [hlen] at hlast hpiece
      rw [eval_ofSegments_concat env hne, JoinStep.forPiece, List.findSome?_cons, hpiece, List.findSome?_singleton,
        stepError?, htake, hlast]
      cases env.eval (.ofSegments es q) with
      | error => rfl
      | ok l => cases env.eval e <;> rfl

/-- The error of a literal is that of its first step that fails. -/
theorem eval_ofSegments_eq_error_iff {err : EvalError} : env.eval (.ofSegments es q) = .error err ↔
    ∃ s, env.firstFailing? es q = some s ∧ env.stepError? es q s = some err := by
  rw [← error?_eq_some_iff, error?_eval_ofSegments, firstFailing?]
  generalize JoinStep.order es.length = steps
  induction steps with
  | nil => simp
  | cons s steps ih =>
    cases hs : env.stepError? es q s <;> simp [hs, ih]

/-! ## Sums that fail -/

/-- Pieces up to one with a value in each step are evaluated. -/
theorem stepError?_eq_none {i : Nat} {l : Value φ} (hi : i ≤ es.length)
    (hl : env.eval (.ofSegments (es.take i) q) = .ok l) :
    ∀ s ∈ JoinStep.order i, env.stepError? es q s = none := by
  have hlen : (es.take i).length = i := List.length_take_of_le hi
  have hnone := error?_eval_ofSegments env (es.take i) q
  rw [hl, hlen] at hnone
  intro s hs
  have hstep : env.stepError? (es.take i ++ es.drop i) q s = env.stepError? (es.take i) q s :=
    stepError?_append (es.drop i) (by rwa [hlen])
  rw [List.take_append_drop] at hstep
  rw [hstep]
  exact List.findSome?_eq_none_iff.mp hnone.symm s hs

/-- A sum is the first step to fail if both sides have values and the sum of these has none. -/
theorem firstFailing?_sum_iff {i : Nat} {err : EvalError} :
    env.firstFailing? es q = some (.sum i) ∧ env.stepError? es q (.sum i) = some err ↔
      ∃ l r, env.eval (.ofSegments (es.take (i + 1)) q) = .ok l ∧ env.pieceAt? es (i + 1) = some (.ok r) ∧
        BinaryOperator.applySum l r q = .error err := by
  constructor
  · rintro ⟨-, herr⟩
    rw [stepError?] at herr
    split at herr
    · rename_i l r hl hr
      exact ⟨l, r, hl, hr, error?_eq_some_iff.mp herr⟩
    · cases herr
  · rintro ⟨l, r, hl, hr, hsum⟩
    have herr : env.stepError? es q (.sum i) = some err := by
      rw [stepError?, hl, hr]
      exact error?_eq_some_iff.mpr hsum
    have hlt : i + 1 < es.length := by
      rw [pieceAt?, Option.map_eq_some_iff] at hr
      obtain ⟨d, hd, -⟩ := hr
      exact (List.getElem?_eq_some_iff.mp hd).1
    obtain ⟨rest, hrest⟩ := JoinStep.order_prefix (Nat.succ_le_of_lt hlt)
    have hpiece : env.stepError? es q (.piece (i + 1)) = none := by
      rw [stepError?, hr]
      rfl
    have hbefore : (JoinStep.order (i + 1)).find? (fun s => (env.stepError? es q s).isSome) = none := by
      rw [List.find?_eq_none]
      intro s hs
      simp [stepError?_eq_none (Nat.le_of_lt hlt) hl s hs]
    refine ⟨?_, herr⟩
    rw [firstFailing?, ← hrest, JoinStep.order, List.find?_append, List.find?_append, hbefore]
    simp [JoinStep.forPiece, hpiece, herr]

/-- The piece with the index `j` is the first that is `nil`, it is evaluated with those in front of it and with the
second, and the error says what cannot be joined. -/
structure AddsNil (env : Environment φ) (es : List Expr) (q : Nat) (err : EvalError) (j : Nat) : Prop where
  nil : env.pieceAt? es j = some (.ok .nil)
  first : ∀ i < j, env.pieceAt? es i ≠ some (.ok .nil)
  evaluated : ∀ i ≤ max j 1, ∃ v, env.pieceAt? es i = some (.ok v)
  error : j = 0 ∧ (∃ v, env.pieceAt? es 1 = some (.ok v) ∧ err = .invalidAddition .nil v.type q) ∨
    0 < j ∧ err = .invalidAddition .string .nil q

/-- Pieces that stand for texts have values other than `nil`. -/
theorem pieceAt?_of_says {ss : List String} {i : Nat} (hes : ∀ e ∈ es, e.isPiece = true)
    (h : List.Forall₂ env.Says es ss) (hi : i < es.length) : ∃ s, env.pieceAt? es i = some (.ok (.text s)) := by
  obtain ⟨s, hs⟩ := exists_forall₂_iff.mp ⟨ss, h⟩ _ (List.getElem_mem hi)
  refine ⟨s, ?_⟩
  rw [pieceAt?, List.getElem?_eq_getElem hi, Option.map_some, (says_iff (hes _ (List.getElem_mem hi))).mp hs]

/-- A sum of what pieces can be fails if one side is `nil`. -/
theorem applySum_eq_error_iff {l r : Value φ} {err : EvalError} (hl : l = .nil ∨ ∃ s, l = .text s)
    (hr : r = .nil ∨ ∃ s, r = .text s) : BinaryOperator.applySum l r q = .error err ↔
      l = .nil ∧ err = .invalidAddition .nil r.type q ∨
        (∃ s, l = .text s) ∧ r = .nil ∧ err = .invalidAddition .string .nil q := by
  rcases hl with rfl | ⟨s, rfl⟩ <;> rcases hr with rfl | ⟨t, rfl⟩ <;>
    simp [BinaryOperator.applySum, Value.type, eq_comm]

theorem pieceAt?_take {i n : Nat} (h : i < n) : env.pieceAt? (es.take n) i = env.pieceAt? es i := by
  rw [pieceAt?, pieceAt?, List.getElem?_take_of_lt h]

/-- The piece with an index is evaluated on its own. -/
theorem eval_of_pieceAt? {i : Nat} {x : Except EvalError (Value φ)} (h : env.pieceAt? es i = some x) :
    ∃ hi : i < es.length, env.eval es[i] = x := by
  obtain ⟨e, he, hx⟩ := Option.map_eq_some_iff.mp h
  obtain ⟨hi, rfl⟩ := List.getElem?_eq_some_iff.mp he
  exact ⟨hi, hx⟩

/-- The first piece alone is a literal. -/
theorem eval_take_one {x : Except EvalError (Value φ)} (hlen : 0 < es.length) :
    env.eval (.ofSegments (es.take 1) q) = x ↔ env.pieceAt? es 0 = some x := by
  cases es with
  | nil => cases hlen
  | cons e es => simp [pieceAt?]

/-- Where a sum is the first step to fail, a `nil` is added. -/
theorem addsNil_of_fails {i : Nat} {err : EvalError} (hes : ∀ e ∈ es, e.isPiece = true) {l r : Value φ}
    (hl : env.eval (.ofSegments (es.take (i + 1)) q) = .ok l) (hr : env.pieceAt? es (i + 1) = some (.ok r))
    (hsum : BinaryOperator.applySum l r q = .error err) : ∃ j, i + 1 = max j 1 ∧ AddsNil env es q err j := by
  obtain ⟨hi, hright⟩ := eval_of_pieceAt? hr
  have htake : ∀ e ∈ es.take (i + 1), e.isPiece = true := fun e he => hes e (List.mem_of_mem_take he)
  have hlen : (es.take (i + 1)).length = i + 1 := List.length_take_of_le (Nat.le_of_lt hi)
  have hleft := cases_of_eval_ofSegments htake hl
  rcases (applySum_eq_error_iff (hleft.imp_left And.left)
    (cases_of_eval_piece (hes _ (List.getElem_mem hi)) hright)).mp hsum with ⟨rfl, rfl⟩ | ⟨⟨s, rfl⟩, rfl, rfl⟩
  · obtain rfl : i = 0 := by
      rcases hleft with ⟨-, hone⟩ | ⟨s, hs⟩
      · omega
      · cases hs
    have hfirst := (eval_take_one (Nat.lt_of_succ_lt hi)).mp hl
    refine ⟨0, rfl, hfirst, nofun, fun k hk => ?_, .inl ⟨rfl, r, hr, rfl⟩⟩
    rcases Nat.le_one_iff_eq_zero_or_eq_one.mp hk with rfl | rfl
    · exact ⟨_, hfirst⟩
    · exact ⟨r, hr⟩
  · obtain ⟨ss, hss, -⟩ := (eval_ofSegments_eq_text_iff htake).mp hl
    have hbefore : ∀ k < i + 1, ∃ s, env.pieceAt? es k = some (.ok (.text s)) := fun k hk => by
      rw [← pieceAt?_take hk]
      exact pieceAt?_of_says htake hss (by omega)
    refine ⟨i + 1, by omega, hr, fun k hk hnil => ?_, fun k hk => ?_, .inr ⟨Nat.succ_pos i, rfl⟩⟩
    · obtain ⟨s, hs⟩ := hbefore k hk
      rw [hs] at hnil
      cases hnil
    · rcases Nat.lt_or_ge k (i + 1) with hlt | hge
      · obtain ⟨s, hs⟩ := hbefore k hlt
        exact ⟨_, hs⟩
      · obtain rfl : k = i + 1 := by omega
        exact ⟨_, hr⟩

/-- Where a `nil` is added, the sum fails and nothing fails before it. -/
theorem AddsNil.fails {j : Nat} {err : EvalError} (hes : ∀ e ∈ es, e.isPiece = true) (h : AddsNil env es q err j)
    {i : Nat} (hi : i + 1 = max j 1) : ∃ l r, env.eval (.ofSegments (es.take (i + 1)) q) = .ok l ∧
      env.pieceAt? es (i + 1) = some (.ok r) ∧ BinaryOperator.applySum l r q = .error err := by
  rcases h.error with ⟨rfl, v, hv, rfl⟩ | ⟨hj, rfl⟩
  · obtain rfl : i = 0 := by omega
    obtain ⟨hlen, -⟩ := eval_of_pieceAt? h.nil
    exact ⟨.nil, v, (eval_take_one hlen).mpr h.nil, hv, rfl⟩
  · obtain rfl : j = i + 1 := by omega
    have htake : ∀ e ∈ es.take (i + 1), e.isPiece = true := fun e he => hes e (List.mem_of_mem_take he)
    have hsays : ∀ e ∈ es.take (i + 1), ∃ s, env.Says e s := fun e he => by
      obtain ⟨k, hk, rfl⟩ := List.mem_take_iff_getElem.mp he
      have hlt : k < i + 1 := Nat.lt_of_lt_of_le hk (Nat.min_le_left _ _)
      obtain ⟨v, hv⟩ := h.evaluated k (by omega)
      obtain ⟨_, heval⟩ := eval_of_pieceAt? hv
      refine (exists_says_iff (htake _ he)).mpr ⟨v, heval, fun hnil => h.first k hlt ?_⟩
      rw [hv, hnil]
    obtain ⟨ss, hss⟩ := exists_forall₂_iff.mpr hsays
    exact ⟨_, .nil, (eval_ofSegments_eq_text_iff htake).mpr ⟨ss, hss, rfl⟩, h.nil, rfl⟩

/-! ## Literals -/

/-- **String literals are concatenations.** Without a piece a literal is the empty text, and a single piece stands for
itself. Two pieces or more have a value if each has one other than `nil`, and then it is their texts one behind the
other. Else the literal fails at the first step that does: a piece, or the sum at which the first `nil` among the pieces
is added. -/
theorem eval_ofSegments_joins (env : Environment φ) (hes : ∀ e ∈ es, e.isPiece = true) (q : Nat) :
    (es = [] → env.eval (.ofSegments es q) = .ok (.text "")) ∧
    (∀ e, es = [e] → env.eval (.ofSegments es q) = env.eval e ∧
      ∀ inner o, e = .interpolation inner o → env.eval inner = .ok .nil → env.eval e = .ok .nil) ∧
    (2 ≤ es.length →
      ((∃ v, env.eval (.ofSegments es q) = .ok v) ↔ ∀ e ∈ es, ∃ v, env.eval e = .ok v ∧ v ≠ .nil) ∧
      (∀ v, env.eval (.ofSegments es q) = .ok v ↔
        ∃ ss, List.Forall₂ env.Says es ss ∧ v = .text (String.join ss)) ∧
      (∀ err, env.eval (.ofSegments es q) = .error err ↔
        ∃ s, env.firstFailing? es q = some s ∧ env.stepError? es q s = some err) ∧
      ∀ i err, env.firstFailing? es q = some (.sum i) ∧ env.stepError? es q (.sum i) = some err ↔
        ∃ j, i + 1 = max j 1 ∧ AddsNil env es q err j) := by
  refine ⟨?_, ?_, fun hlen => ?_⟩
  · rintro rfl
    rfl
  · rintro e rfl
    refine ⟨rfl, ?_⟩
    rintro inner o rfl hinner
    rw [eval, hinner]
    rfl
  have htext : ∀ v, env.eval (.ofSegments es q) = .ok v ↔
      ∃ ss, List.Forall₂ env.Says es ss ∧ v = .text (String.join ss) := fun v => by
    constructor
    · intro hv
      obtain ⟨t, rfl⟩ := (cases_of_eval_ofSegments hes hv).resolve_left fun h => by omega
      obtain ⟨ss, hss, rfl⟩ := (eval_ofSegments_eq_text_iff hes).mp hv
      exact ⟨ss, hss, rfl⟩
    · rintro ⟨ss, hss, rfl⟩
      exact (eval_ofSegments_eq_text_iff hes).mpr ⟨ss, hss, rfl⟩
  refine ⟨?_, htext, fun err => eval_ofSegments_eq_error_iff, fun i err => ?_⟩
  · calc (∃ v, env.eval (.ofSegments es q) = .ok v)
        ↔ ∃ ss, List.Forall₂ env.Says es ss := by
          simp only [htext]
          exact ⟨fun ⟨_, ss, hss, _⟩ => ⟨ss, hss⟩, fun ⟨ss, hss⟩ => ⟨_, ss, hss, rfl⟩⟩
      _ ↔ ∀ e ∈ es, ∃ s, env.Says e s := exists_forall₂_iff
      _ ↔ ∀ e ∈ es, ∃ v, env.eval e = .ok v ∧ v ≠ .nil :=
          forall₂_congr fun e he => exists_says_iff (hes e he)
  · rw [firstFailing?_sum_iff]
    constructor
    · rintro ⟨l, r, hl, hr, hsum⟩
      exact addsNil_of_fails hes hl hr hsum
    · rintro ⟨j, hj, h⟩
      exact h.fails hes hj

/-- A `nil` behind a text fails to be joined before the failure behind it is reached. -/
theorem eval_ofSegments_joins_nil :
    (∀ e ∈ [Expr.string "a", .interpolation .nil 2, .interpolation (.unary .negate .nil 9) 7], e.isPiece = true) ∧
    bare.eval (.ofSegments [.string "a", .interpolation .nil 2, .interpolation (.unary .negate .nil 9) 7] 0) =
      .error (.invalidAddition .string .nil 0) ∧
    AddsNil bare [.string "a", .interpolation .nil 2, .interpolation (.unary .negate .nil 9) 7] 0
      (.invalidAddition .string .nil 0) 1 := by
  have hes : ∀ e ∈ [Expr.string "a", .interpolation .nil 2, .interpolation (.unary .negate .nil 9) 7],
      e.isPiece = true := by simp [Expr.isPiece]
  obtain ⟨-, -, hjoins⟩ := eval_ofSegments_joins bare hes 0
  obtain ⟨-, -, herror, hsum⟩ := hjoins (by decide)
  have hstep : bare.firstFailing? [.string "a", .interpolation .nil 2, .interpolation (.unary .negate .nil 9) 7] 0 =
      some (.sum 0) := by rfl
  have hvalue := (herror (.invalidAddition .string .nil 0)).mpr ⟨.sum 0, hstep, rfl⟩
  obtain ⟨j, hj, hnil⟩ := (hsum 0 (.invalidAddition .string .nil 0)).mp ⟨hstep, rfl⟩
  obtain rfl : j = 1 := by
    rcases hnil.error with ⟨rfl, v, -, herr⟩ | ⟨hpos, -⟩
    · cases herr
    · omega
  exact ⟨hes, hvalue, hnil⟩

end Environment

end Formula
