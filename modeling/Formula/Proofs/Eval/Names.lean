import Formula.Proofs.Eval.Provenance
import Formula.Proofs.Expr.Balance
import Formula.Proofs.Expr.Parts
import Formula.Proofs.Expr.Sound

/-!
# Evaluation depends on the names that are used

An expression sees the variables and functions only through the names in it: what its names stand for, and which
functions its method names find. So what is bound to other names, or bound again behind what is found first, does not
matter to a source.

- `Environment.AgreeOn`: two environments in which the names among some expressions mean the same.
- `Environment.eval_congr`: an expression has the same value in both.
- `Environment.interpret_congr`: and so has a source.
- `Environment.interpret_names`: the bindings that a source does not see.
-/

namespace Formula

open Token

namespace Environment

variable {φ : Type}

/-- The functions do the same, the names among the expressions stand for the same, and the method names find the same. -/
structure AgreeOn (env env' : Environment φ) (ps : List Expr) : Prop where
  run : env.run = env'.run
  resolve : ∀ {name : String} {o : Nat}, .identifier name o ∈ ps → env.resolve name = env'.resolve name
  lookup? : ∀ {e : Expr} {name : String} {o : Nat}, .method e name o ∈ ps → env.lookup? name = env'.lookup? name

section Congr

variable {env env' : Environment φ} {ps : List Expr}

theorem AgreeOn.left {qs : List Expr} (h : env.AgreeOn env' (ps ++ qs)) : env.AgreeOn env' ps where
  run := h.run
  resolve hmem := h.resolve (List.mem_append_left qs hmem)
  lookup? hmem := h.lookup? (List.mem_append_left qs hmem)

theorem AgreeOn.right {qs : List Expr} (h : env.AgreeOn env' (ps ++ qs)) : env.AgreeOn env' qs where
  run := h.run
  resolve hmem := h.resolve (List.mem_append_right ps hmem)
  lookup? hmem := h.lookup? (List.mem_append_right ps hmem)

theorem apply_congr (h : env.run = env'.run) (callee : Expr) (v : Value φ) (vs : List (Value φ)) (o : Nat) :
    env.apply callee v vs o = env'.apply callee v vs o := by
  unfold apply call
  rw [h]

theorem bindMethod_congr {name : String} (h : env.lookup? name = env'.lookup? name) (v : Value φ) (o : Nat) :
    env.bindMethod v name o = env'.bindMethod v name o := by
  unfold bindMethod
  rw [h]

mutual

/-- Where its names mean the same, an expression has the same value. -/
theorem eval_congr : ∀ {e : Expr}, env.AgreeOn env' e.parts → env.eval e = env'.eval e
  | .number _, _ | .string _, _ | .bool _, _ | .nil, _ => rfl
  | .identifier name o, h => congrArg Except.ok (h.resolve (List.mem_singleton_self _))
  | .unary op operand o, h => by
    rw [Expr.parts] at h
    rw [eval, eval, eval_congr h.left]
  | .binary left op right o, h => by
    rw [Expr.parts] at h
    rw [eval, eval, eval_congr h.left.left, eval_congr h.left.right]
  | .grouping inner, h => by
    rw [Expr.parts] at h
    rw [eval, eval, eval_congr h.left]
  | .call callee arguments o, h => by
    rw [Expr.parts] at h
    have hcallee := eval_congr h.left.left
    have harguments := evalAll_congr h.left.right
    rw [eval, eval, hcallee, harguments]
    simp only [apply_congr h.run]
  | .method receiver name o, h => by
    have hname : env.lookup? name = env'.lookup? name := h.lookup? (Expr.mem_parts_self _)
    rw [Expr.parts] at h
    rw [eval, eval, eval_congr h.left]
    simp only [bindMethod_congr hname]
  | .interpolation inner o, h => by
    rw [Expr.parts] at h
    rw [eval, eval, eval_congr h.left]

theorem evalAll_congr : ∀ {es : List Expr}, env.AgreeOn env' (Expr.partsAll es) → env.evalAll es = env'.evalAll es
  | [], _ => rfl
  | e :: es, h => by
    rw [Expr.partsAll] at h
    rw [evalAll, evalAll, eval_congr h.left, evalAll_congr h.right]

end

end Congr

/-! ## Sources -/

section Sources

variable {env env' : Environment φ} {source : String}

/-- Where the names in its tokens mean the same, a source has the same value. -/
theorem interpret_congr (hrun : env.run = env'.run)
    (hresolve : ∀ name, Mentions (Expr.significant (scan source)) name → env.resolve name = env'.resolve name)
    (hlookup : ∀ name, (∃ t ∈ scan source, t.kind = .identifier name) → env.lookup? name = env'.lookup? name) :
    env.interpret source = env'.interpret source := by
  unfold interpret
  cases hsource : Expr.ofSource source with
  | error err => rfl
  | ok e =>
    cases e with
    | none => rfl
    | some e =>
      have hderives := Expr.ofTokens_eq_some_iff_derives.mp hsource
      have hwritten : ∀ d ∈ e.parts, d.WrittenIn (Expr.significant (scan source)) := fun d hd => by
        rw [Grammar.significant_scan, ← Grammar.sentence_scan]
        exact (hderives.writtenIn hd).append_right _
      have hagree : env.AgreeOn env' e.parts :=
        { run := hrun
          resolve := fun hmem => hresolve _ (hwritten _ hmem)
          lookup? := fun hmem => by
            obtain ⟨t, ht, hname⟩ := hwritten _ hmem
            exact hlookup _ ⟨t, (List.mem_filter.mp ht).1, hname⟩ }
      dsimp only [Option.toList_some, execute, evalAll]
      rw [eval_congr hagree]

end Sources

/-! ## Tables -/

section Tables

/-- What is not looked for may be left out, -/
theorem find?_append_of_forall {α : Type} {p : α → Bool} {xs : List α} (h : ∀ x ∈ xs, p x = false) (pre post : List α) :
    (pre ++ xs ++ post).find? p = (pre ++ post).find? p := by
  have hxs : xs.find? p = none := List.find?_eq_none.mpr fun x hx => by simp [h x hx]
  rw [List.append_assoc, List.find?_append, List.find?_append, hxs, List.find?_append, Option.none_or]

/-- and so may what comes behind something else that is found wherever it would be. -/
theorem find?_append_of_shadowed {α : Type} {p : α → Bool} {a b : α} {pre : List α} (ha : a ∈ pre)
    (h : p b = true → p a = true) (post : List α) : (pre ++ b :: post).find? p = (pre ++ post).find? p := by
  rw [List.find?_append, List.find?_append]
  cases hpre : pre.find? p with
  | some c => rfl
  | none =>
    have hb : ¬ p b = true := fun hb => List.find?_eq_none.mp hpre a ha (h hb)
    rw [List.find?_cons_of_neg hb]

variable {env env' : Environment φ} {source : String}

theorem resolve_eq_of_find? {name : String} (hvars : env.vars.find? (·.name = name) = env'.vars.find? (·.name = name))
    (hfunctions : env.lookup? name = env'.lookup? name) : env.resolve name = env'.resolve name := by
  unfold resolve
  rw [hvars, hfunctions]

/-- The last function of a selector is found from behind. -/
theorem lookup?_eq_of_find? {name : String}
    (h : env.hostFunctions.reverse.find? (·.selector = name) = env'.hostFunctions.reverse.find? (·.selector = name)) :
    env.lookup? name = env'.lookup? name := by
  unfold lookup? functions
  rw [List.reverse_append, List.reverse_append, List.find?_append, List.find?_append, h]

variable (env)

/-- What is bound to names that do not occur in a source is not seen. -/
theorem interpret_append_unused {us : List (Variable φ)} {fs : List (Function φ)}
    (hus : ∀ v ∈ us, ∀ t ∈ scan source, t.kind ≠ .identifier v.name)
    (hfs : ∀ f ∈ fs, ∀ t ∈ scan source, t.kind ≠ .identifier f.selector)
    (pre post : List (Variable φ)) (fpre fpost : List (Function φ)) :
    { env with vars := pre ++ us ++ post, hostFunctions := fpre ++ fs ++ fpost }.interpret source =
      { env with vars := pre ++ post, hostFunctions := fpre ++ fpost }.interpret source := by
  have hlookup : ∀ name, (∃ t ∈ scan source, t.kind = .identifier name) →
      { env with vars := pre ++ us ++ post, hostFunctions := fpre ++ fs ++ fpost }.lookup? name =
        { env with vars := pre ++ post, hostFunctions := fpre ++ fpost }.lookup? name := by
    rintro name ⟨t, ht, hname⟩
    have hother : ∀ f ∈ fs.reverse, decide (f.selector = name) = false := fun f hf =>
      decide_eq_false fun heq => hfs f (List.mem_reverse.mp hf) t ht (heq ▸ hname)
    have hfind := find?_append_of_forall hother fpost.reverse fpre.reverse
    refine lookup?_eq_of_find? ?_
    rwa [← List.reverse_append, ← List.reverse_append, ← List.reverse_append, ← List.append_assoc] at hfind
  refine interpret_congr rfl (fun name hname => ?_) hlookup
  obtain ⟨pre', t, post', hts, hkind, -⟩ := hname
  have ht : t ∈ scan source := (List.mem_filter.mp (hts ▸ List.mem_append_right pre' List.mem_cons_self)).1
  have hother : ∀ v ∈ us, decide (v.name = name) = false := fun v hv =>
    decide_eq_false fun heq => hus v hv t ht (heq ▸ hkind)
  exact resolve_eq_of_find? (find?_append_of_forall hother pre post) (hlookup name ⟨t, ht, hkind⟩)

/-- Variables whose names are method names at most are not seen. -/
theorem interpret_append_methods {us ws : List (Variable φ)}
    (h : ∀ v ∈ us ++ ws, ¬ Mentions (Expr.significant (scan source)) v.name) (pre post : List (Variable φ)) :
    { env with vars := pre ++ us ++ post }.interpret source = { env with vars := pre ++ ws ++ post }.interpret source := by
  refine interpret_congr rfl (fun name hname => ?_) fun _ _ => rfl
  have hother : ∀ v ∈ us ++ ws, decide (v.name = name) = false := fun v hv =>
    decide_eq_false fun heq => h v hv (heq ▸ hname)
  have hus := find?_append_of_forall (fun v hv => hother v (List.mem_append_left ws hv)) pre post
  have hws := find?_append_of_forall (fun v hv => hother v (List.mem_append_right us hv)) pre post
  exact resolve_eq_of_find? (hus.trans hws.symm) rfl

/-- A variable behind another one of its name is not seen. -/
theorem interpret_shadowed {v w : Variable φ} (h : v.name = w.name) (pre mid post : List (Variable φ)) :
    { env with vars := pre ++ v :: mid ++ w :: post }.interpret source =
      { env with vars := pre ++ v :: mid ++ post }.interpret source := by
  refine interpret_congr rfl (fun name _ => ?_) fun _ _ => rfl
  refine resolve_eq_of_find? (find?_append_of_shadowed (a := v) (by simp) (fun hw => ?_) post) rfl
  rwa [h]

/-- A function of the host in front of another one of its selector is not seen. -/
theorem interpret_replaced {f g : Function φ} (h : f.selector = g.selector) (pre mid post : List (Function φ)) :
    { env with hostFunctions := pre ++ f :: mid ++ g :: post }.interpret source =
      { env with hostFunctions := pre ++ mid ++ g :: post }.interpret source := by
  have hlookup : ∀ name, { env with hostFunctions := pre ++ f :: mid ++ g :: post }.lookup? name =
      { env with hostFunctions := pre ++ mid ++ g :: post }.lookup? name := fun name => by
    refine lookup?_eq_of_find? ?_
    have hfind : (post.reverse ++ g :: mid.reverse ++ f :: pre.reverse).find? (·.selector = name) =
        (post.reverse ++ g :: mid.reverse ++ pre.reverse).find? (·.selector = name) :=
      find?_append_of_shadowed (a := g) (by simp) (fun hf => by rwa [← h]) pre.reverse
    simpa using hfind
  exact interpret_congr rfl (fun name _ => resolve_eq_of_find? rfl (hlookup name)) fun name _ => hlookup name

end Tables

/-- **Evaluation depends on the names that are used.** Where the functions of the host do the same, the names of an
expression stand for the same and its method names find the same, it has the same value or fails alike. So a source
does not see

- what is bound to names that do not occur in it,
- a variable behind another one of its name, or a function of the host in front of another one of its selector,
- variables whose names occur in it as method names only, each directly behind a dot. -/
theorem interpret_names (env : Environment φ) :
    (∀ (env' : Environment φ) (e : Expr), env.run = env'.run →
      (∀ name o, .identifier name o ∈ e.parts → env.resolve name = env'.resolve name) →
      (∀ receiver name o, .method receiver name o ∈ e.parts → env.lookup? name = env'.lookup? name) →
      env.eval e = env'.eval e) ∧
    ∀ source : String,
      (∀ (us : List (Variable φ)) (fs : List (Function φ)),
        (∀ v ∈ us, ∀ t ∈ scan source, t.kind ≠ .identifier v.name) →
        (∀ f ∈ fs, ∀ t ∈ scan source, t.kind ≠ .identifier f.selector) →
        ∀ pre post fpre fpost,
          { env with vars := pre ++ us ++ post, hostFunctions := fpre ++ fs ++ fpost }.interpret source =
            { env with vars := pre ++ post, hostFunctions := fpre ++ fpost }.interpret source) ∧
      (∀ v w : Variable φ, v.name = w.name → ∀ pre mid post,
        { env with vars := pre ++ v :: mid ++ w :: post }.interpret source =
          { env with vars := pre ++ v :: mid ++ post }.interpret source) ∧
      (∀ f g : Function φ, f.selector = g.selector → ∀ pre mid post,
        { env with hostFunctions := pre ++ f :: mid ++ g :: post }.interpret source =
          { env with hostFunctions := pre ++ mid ++ g :: post }.interpret source) ∧
      ∀ us ws : List (Variable φ), (∀ v ∈ us ++ ws, ¬ Mentions (Expr.significant (scan source)) v.name) →
        ∀ pre post, { env with vars := pre ++ us ++ post }.interpret source =
          { env with vars := pre ++ ws ++ post }.interpret source := by
  refine ⟨fun env' e hrun hresolve hlookup => ?_, fun source => ⟨?_, ?_, ?_, ?_⟩⟩
  · exact eval_congr { run := hrun, resolve := hresolve _ _, lookup? := hlookup _ _ _ }
  · intro us fs hus hfs pre post fpre fpost
    exact env.interpret_append_unused hus hfs pre post fpre fpost
  · intro v w h pre mid post
    exact env.interpret_shadowed h pre mid post
  · intro f g h pre mid post
    exact env.interpret_replaced h pre mid post
  · intro us ws h pre post
    exact env.interpret_append_methods h pre post

/-- What `x.rounded` is does not depend on a variable `rounded` or `y`, on a second `x`, or on the first of two functions
`x` of the host. -/
theorem interpret_names_method :
    (∀ t ∈ scan "x.rounded", t.kind ≠ .identifier "y") ∧
    ¬ Mentions (Expr.significant (scan "x.rounded")) "rounded" ∧
    (bare.bind "rounded" .nil).eval (.method .nil "rounded" 0) = bare.eval (.method .nil "rounded" 0) ∧
    (bare.bind "y" .nil).interpret "x.rounded" = bare.interpret "x.rounded" ∧
    ((bare.bind "x" .nil).bind "x" (.bool true)).interpret "x.rounded" =
      (bare.bind "x" (.bool true)).interpret "x.rounded" ∧
    (⟨[], [⟨"x", none, .host ()⟩, ⟨"x", none, .builtin .rounded⟩], bare.run⟩ : Environment Unit).interpret "x.rounded" =
      (⟨[], [⟨"x", none, .builtin .rounded⟩], bare.run⟩ : Environment Unit).interpret "x.rounded" ∧
    (bare.bind "rounded" .nil).interpret "x.rounded" = bare.interpret "x.rounded" := by
  have hscan : scan "x.rounded" = [⟨.identifier "x", "x", 0⟩, ⟨.symbol .dot, ".", 1⟩,
      ⟨.identifier "rounded", "rounded", 2⟩, ⟨.eof, "", 9⟩] := by cbv
  have hother : ∀ t ∈ scan "x.rounded", t.kind ≠ .identifier "y" := by simp [hscan]
  have hmethod : ¬ Mentions (Expr.significant (scan "x.rounded")) "rounded" := by
    rw [hscan]
    rintro ⟨pre, t, post, hts, ht, hd⟩
    simp only [Expr.significant, Kind.isSignificant, List.filter] at hts
    rcases pre with _ | ⟨a, _ | ⟨b, _ | ⟨c, _ | ⟨d, pre⟩⟩⟩⟩ <;> simp at hts
    · simp [← hts.1] at ht
    · simp [← hts.2.1] at ht
    · simp [← hts.2.1] at hd
    · simp [← hts.2.2.2.1] at ht
  have heval := (interpret_names (bare.bind "rounded" .nil)).1 bare (.method .nil "rounded" 0) rfl
    (by simp [Expr.parts]) fun _ _ _ _ => rfl
  obtain ⟨hunused, hshadowed, hreplaced, hmethods⟩ := (interpret_names bare).2 "x.rounded"
  exact ⟨hother, hmethod, heval, hunused [⟨"y", .nil⟩] [] (by simpa using hother) (by simp) [] [] [] [],
    hshadowed ⟨"x", .bool true⟩ ⟨"x", .nil⟩ rfl [] [] [],
    hreplaced ⟨"x", none, .host ()⟩ ⟨"x", none, .builtin .rounded⟩ rfl [] [] [],
    hmethods [⟨"rounded", .nil⟩] [] (by simpa using hmethod) [] []⟩

end Environment

end Formula
