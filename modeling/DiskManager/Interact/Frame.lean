import DiskManager.Interact.Prog

/-!
# What an operation does whatever it meets

Facts about an operation that do not depend on the memory its sections find.

* `Within G p post`: every section of `p`, in any memory and after any answers, is a `G` step, and
  what `p` returns satisfies `post`. Other operations may run between the sections.
* `wp_within` adds such a fact to a weakest precondition.
* `Keeps I p post`: every section of `p` that finds `I` leaves `I`, and what `p` returns satisfies
  `post` when its sections found `I`.
* `Asks P p`: every request of `p` is one of `P`; `wp_asks` is the frame rule for the world.
* `Contract.free`, `wp_lift`: an operation of a component, run inside the whole, keeps what it
  keeps alone, and the rest of memory and the world stay as they are.
-/

namespace Interact

variable {S Q W : Type} {R : Q → Type} {α β : Type}

def Within (G : S → S → Prop) : Prog S Q R α → (α → Prop) → Prop
  | .done a, post => post a
  | .atomic upd next, post => ∀ s, G s (upd s) ∧ Within G (next s) post
  | .call _ next, post => ∀ r, Within G (next r) post

section Rules

variable {G : S → S → Prop} {post post' : α → Prop}

@[simp] theorem within_pure {a : α} : Within G (pure a : Prog S Q R α) post ↔ post a := Iff.rfl

@[simp] theorem within_atomically {f : S → α × S} :
    Within G (Prog.atomically f : Prog S Q R α) post ↔ ∀ s, G s (f s).2 ∧ post (f s).1 := Iff.rfl

@[simp] theorem within_read {f : S → α} :
    Within G (Prog.read f : Prog S Q R α) post ↔ ∀ s, G s s ∧ post (f s) := Iff.rfl

@[simp] theorem within_modify {f : S → S} {post : Unit → Prop} :
    Within G (Prog.modify f : Prog S Q R Unit) post ↔ ∀ s, G s (f s) ∧ post () := Iff.rfl

@[simp] theorem within_request {q : Q} {post : R q → Prop} :
    Within G (Prog.request q : Prog S Q R (R q)) post ↔ ∀ r, post r := Iff.rfl

@[simp] theorem within_bind {p : Prog S Q R α} {f : α → Prog S Q R β} {post : β → Prop} :
    Within G (p >>= f) post ↔ Within G p fun a => Within G (f a) post := by
  change Within G (p.bind f) post ↔ _
  induction p with
  | done a => exact Iff.rfl
  | atomic upd next ih => simp only [Prog.bind, Within, ih]
  | call q next ih => simp only [Prog.bind, Within, ih]

theorem within_mono {p : Prog S Q R α} (imp : ∀ a, post a → post' a) (pre : Within G p post) :
    Within G p post' := by
  induction p with
  | done a => exact imp a pre
  | atomic upd next ih => exact fun s => ⟨(pre s).1, ih s (pre s).2⟩
  | call q next ih => exact fun r => ih r (pre r)

theorem within_weaken {G' : S → S → Prop} {p : Prog S Q R α} (pre : Within G p post)
    (imp : ∀ {s s'}, G s s' → G' s s') : Within G' p post := by
  induction p with
  | done a => exact pre
  | atomic upd next ih => exact fun s => ⟨imp (pre s).1, ih s (pre s).2⟩
  | call q next ih => exact fun r => ih r (pre r)

/-- Sequencing through a lemma about the first part. -/
theorem within_seq {p : Prog S Q R α} {f : α → Prog S Q R β} {mid : α → Prop} {post : β → Prop}
    (first : Within G p mid) (rest : ∀ a, mid a → Within G (f a) post) :
    Within G (p >>= f) post :=
  within_bind.mpr (within_mono rest first)

theorem within_lift {T P : Type} {U : P → Type} {get : S → T} {put : T → S → S} {inj : P → Q}
    {conv : ∀ p, R (inj p) → U p} (p : Prog T P U α) (part : ∀ s t, G s (put t s)) :
    Within G (p.lift get put inj conv) fun _ => True := by
  induction p with
  | done a => trivial
  | atomic upd next ih => exact fun s => ⟨part s _, ih (get s)⟩
  | call q next ih => exact fun r => ih (conv q r)

/-- The sections of a component, known one by one. -/
theorem within_lift_where {T P : Type} {U : P → Type} {get : S → T} {put : T → S → S} {inj : P → Q}
    {conv : ∀ a, R (inj a) → U a} {G' : T → T → Prop} {post : α → Prop} {p : Prog T P U α}
    (within : Within G' p post) (imp : ∀ s t, G' (get s) t → G s (put t s)) :
    Within G (p.lift get put inj conv) post := by
  induction p with
  | done a => exact within
  | atomic upd next ih =>
      exact fun s => ⟨imp s _ (within (get s)).1, ih (get s) (within (get s)).2⟩
  | call a next ih => exact fun r => ih (conv a r) (within (conv a r))

end Rules

/-- A fact about every section holds from the start to the end of a run on its own. -/
theorem wp_within {C : Contract S W Q R} {G : S → S → Prop} {p : Prog S Q R α}
    {post : α → S → W → Prop} {kept : α → Prop} {s : S} {w : W} (pre : wp C p post s w)
    (within : Within G p kept) (refl : ∀ s, G s s)
    (trans : ∀ {s₁ s₂ s₃}, G s₁ s₂ → G s₂ s₃ → G s₁ s₃) :
    wp C p (fun a s' w' => post a s' w' ∧ G s s' ∧ kept a) s w := by
  induction p generalizing s w with
  | done a => exact ⟨pre, refl s, within⟩
  | atomic upd next ih =>
      refine ⟨pre.1, wp_mono ?_ (ih s pre.2 (within s).2)⟩
      intro a s' w' ended
      exact ⟨ended.1, trans (within s).1 ended.2.1, ended.2.2⟩
  | call q next ih => exact ⟨pre.1, fun r w' answered => ih r (pre.2 r w' answered) (within r)⟩

/-- The same without a precondition, for a contract that asks for nothing more. -/
theorem wp_of_within {C : Contract S W Q R} {G : S → S → Prop} {p : Prog S Q R α}
    {kept : α → Prop} {s : S} {w : W} (within : Within G p kept) (refl : ∀ s, G s s)
    (trans : ∀ {s₁ s₂ s₃}, G s₁ s₂ → G s₂ s₃ → G s₁ s₃) (ok : ∀ {s w q}, C.ok s w q)
    (guar : ∀ {w s s'}, G s s' → C.guar w s s') :
    wp C p (fun a s' _ => G s s' ∧ kept a) s w := by
  induction p generalizing s w with
  | done a => exact ⟨refl s, within⟩
  | atomic upd next ih =>
      refine ⟨guar (within s).1, wp_mono ?_ (ih s (within s).2)⟩
      intro a s' w' ended
      exact ⟨trans (within s).1 ended.1, ended.2⟩
  | call q next ih => exact ⟨ok, fun r w' _ => ih r (within r)⟩

/-! ## Invariants of memory -/

def Keeps (I : S → Prop) : Prog S Q R α → (α → Prop) → Prop
  | .done a, post => post a
  | .atomic upd next, post => ∀ s, I s → I (upd s) ∧ Keeps I (next s) post
  | .call _ next, post => ∀ r, Keeps I (next r) post

section Rules

variable {I : S → Prop} {post post' : α → Prop}

@[simp] theorem keeps_pure {a : α} : Keeps I (pure a : Prog S Q R α) post ↔ post a := Iff.rfl

@[simp] theorem keeps_modify {f : S → S} {post : Unit → Prop} :
    Keeps I (Prog.modify f : Prog S Q R Unit) post ↔ ∀ s, I s → I (f s) ∧ post () := Iff.rfl

@[simp] theorem keeps_bind {p : Prog S Q R α} {f : α → Prog S Q R β} {post : β → Prop} :
    Keeps I (p >>= f) post ↔ Keeps I p fun a => Keeps I (f a) post := by
  change Keeps I (p.bind f) post ↔ _
  induction p with
  | done a => exact Iff.rfl
  | atomic upd next ih => simp only [Prog.bind, Keeps, ih]
  | call q next ih => simp only [Prog.bind, Keeps, ih]

theorem keeps_mono {p : Prog S Q R α} (imp : ∀ a, post a → post' a) (pre : Keeps I p post) :
    Keeps I p post' := by
  induction p with
  | done a => exact imp a pre
  | atomic upd next ih => exact fun s held => ⟨(pre s held).1, ih s (pre s held).2⟩
  | call q next ih => exact fun r => ih r (pre r)

/-- Sequencing through a lemma about the first part. -/
theorem keeps_seq {p : Prog S Q R α} {f : α → Prog S Q R β} {mid : α → Prop} {post : β → Prop}
    (first : Keeps I p mid) (rest : ∀ a, mid a → Keeps I (f a) post) : Keeps I (p >>= f) post :=
  keeps_bind.mpr (keeps_mono rest first)

/-- A section that only reads, then what depends on what it read. -/
theorem keeps_read_bind {f : S → α} {g : α → Prog S Q R β} {post : β → Prop}
    (rest : ∀ s, I s → Keeps I (g (f s)) post) : Keeps I (Prog.read f >>= g) post :=
  keeps_bind.mpr fun s held => ⟨held, rest s held⟩

theorem keeps_modify_bind {f : S → S} {g : Unit → Prog S Q R β} {post : β → Prop}
    (kept : ∀ s, I s → I (f s)) (rest : Keeps I (g ()) post) :
    Keeps I (Prog.modify f >>= g) post :=
  keeps_bind.mpr fun s held => ⟨kept s held, rest⟩

theorem keeps_request_bind {q : Q} {g : R q → Prog S Q R β} {post : β → Prop}
    (rest : ∀ r, Keeps I (g r) post) : Keeps I (Prog.request q >>= g) post :=
  keeps_bind.mpr rest

/-- A loop keeps what its rounds keep. -/
theorem keeps_forM {γ : Type} {body : γ → Prog S Q R PUnit} (xs : List γ)
    (round : ∀ x, Keeps I (body x) fun _ => True) : Keeps I (xs.forM body) fun _ => True := by
  induction xs with
  | nil => trivial
  | cons x xs ih =>
      change Keeps I (body x >>= fun _ => xs.forM body) _
      exact keeps_seq (round x) fun _ _ => ih

/-- What each section keeps, an operation keeps. -/
theorem keeps_of_within {G : S → S → Prop} {p : Prog S Q R α} (within : Within G p post)
    (imp : ∀ s s', G s s' → I s → I s') : Keeps I p post := by
  induction p with
  | done a => exact within
  | atomic upd next ih => exact fun s held => ⟨imp s _ (within s).1 held, ih s (within s).2⟩
  | call q next ih => exact fun r => ih r (within r)

/-- What does not change memory keeps everything. -/
theorem Within.keeps {p : Prog S Q R α} (within : Within Eq p post) : Keeps I p post :=
  keeps_of_within within fun _ _ same held => same ▸ held

end Rules

/-! ## Requests -/

/-- Every request of `p`, in any memory and after any answers, is one of `P`. -/
def Asks (P : Q → Prop) : Prog S Q R α → Prop
  | .done _ => True
  | .atomic _ next => ∀ s, Asks P (next s)
  | .call q next => P q ∧ ∀ r, Asks P (next r)

section Rules

variable {P : Q → Prop}

theorem asks_pure {a : α} : Asks P (pure a : Prog S Q R α) := trivial

theorem asks_bind {p : Prog S Q R α} {f : α → Prog S Q R β} (first : Asks P p)
    (rest : ∀ a, Asks P (f a)) : Asks P (p >>= f) := by
  change Asks P (p.bind f)
  induction p with
  | done a => exact rest a
  | atomic upd next ih => exact fun s => ih s (first s)
  | call q next ih => exact ⟨first.1, fun r => ih r (first.2 r)⟩

/-- Sequencing with what is known of the result of the first part. -/
theorem asks_seq {G : S → S → Prop} {post : α → Prop} {p : Prog S Q R α} {f : α → Prog S Q R β}
    (first : Asks P p) (within : Within G p post) (rest : ∀ a, post a → Asks P (f a)) :
    Asks P (p >>= f) := by
  change Asks P (p.bind f)
  induction p with
  | done a => exact rest a within
  | atomic upd next ih => exact fun s => ih s (first s) (within s).2
  | call q next ih => exact ⟨first.1, fun r => ih r (first.2 r) (within r)⟩

theorem asks_request_bind {q : Q} {f : R q → Prog S Q R β} (asked : P q)
    (rest : ∀ r, Asks P (f r)) : Asks P (Prog.request q >>= f) :=
  ⟨asked, rest⟩

theorem asks_read_bind {g : S → α} {f : α → Prog S Q R β} (rest : ∀ s, Asks P (f (g s))) :
    Asks P (Prog.read g >>= f) :=
  rest

theorem asks_forM {γ : Type} {body : γ → Prog S Q R PUnit} (xs : List γ)
    (round : ∀ x, Asks P (body x)) : Asks P (xs.forM body) := by
  induction xs with
  | nil => trivial
  | cons x xs ih => exact asks_bind (round x) fun _ => ih

theorem asks_mono {P' : Q → Prop} {p : Prog S Q R α} (imp : ∀ q, P q → P' q) (asks : Asks P p) :
    Asks P' p := by
  induction p with
  | done a => trivial
  | atomic upd next ih => exact fun s => ih s (asks s)
  | call q next ih => exact ⟨imp q asks.1, fun r => ih r (asks.2 r)⟩

theorem asks_lift {T A : Type} {U : A → Type} {get : S → T} {put : T → S → S} {inj : A → Q}
    {conv : ∀ a, R (inj a) → U a} (p : Prog T A U α) (all : ∀ a, P (inj a)) :
    Asks P (p.lift get put inj conv) := by
  induction p with
  | done a => trivial
  | atomic upd next ih => exact fun s => ih (get s)
  | call a next ih => exact ⟨all a, fun r => ih (conv a r)⟩

/-- The requests of a component, known one by one. -/
theorem asks_lift_where {T A : Type} {U : A → Type} {get : S → T} {put : T → S → S} {inj : A → Q}
    {conv : ∀ a, R (inj a) → U a} {P' : A → Prop} {p : Prog T A U α} (asks : Asks P' p)
    (imp : ∀ a, P' a → P (inj a)) : Asks P (p.lift get put inj conv) := by
  induction p with
  | done a => trivial
  | atomic upd next ih => exact fun s => ih (get s) (asks (get s))
  | call a next ih => exact ⟨imp a asks.1, fun r => ih (conv a r) (asks.2 (conv a r))⟩

/-- An operation whose requests leave the world as it is. -/
theorem wp_asks {C : Contract S W Q R} {G : S → S → Prop} {p : Prog S Q R α} {kept : α → Prop}
    {s : S} {w : W} (within : Within G p kept) (asks : Asks P p) (refl : ∀ s, G s s)
    (trans : ∀ {s₁ s₂ s₃}, G s₁ s₂ → G s₂ s₃ → G s₁ s₃) (ok : ∀ {s w q}, P q → C.ok s w q)
    (quiet : ∀ {s w q r w'}, P q → C.env s w q r w' → w' = w)
    (guar : ∀ {w s s'}, G s s' → C.guar w s s') :
    wp C p (fun a s' w' => G s s' ∧ kept a ∧ w' = w) s w := by
  induction p generalizing s w with
  | done a => exact ⟨refl s, within, rfl⟩
  | atomic upd next ih =>
      refine ⟨guar (within s).1, wp_mono ?_ (ih s (within s).2 (asks s))⟩
      intro a s' w' ended
      exact ⟨trans (within s).1 ended.1, ended.2⟩
  | call q next ih =>
      refine ⟨ok asks.1, fun r w' answered => ?_⟩
      rw [quiet asks.1 answered]
      exact ih r (within r) (asks.2 r)

/-- The same for what is known of the operation already. -/
theorem wp_keeps_world {C : Contract S W Q R} {p : Prog S Q R α} {post : α → S → W → Prop} {s : S} {w : W}
    (pre : wp C p post s w) (asks : Asks P p)
    (quiet : ∀ {s w q r w'}, P q → C.env s w q r w' → w' = w) :
    wp C p (fun a s' w' => post a s' w' ∧ w' = w) s w := by
  induction p generalizing s w with
  | done a => exact ⟨pre, rfl⟩
  | atomic upd next ih => exact ⟨pre.1, ih s pre.2 (asks s)⟩
  | call q next ih =>
      refine ⟨pre.1, fun r w' answered => ?_⟩
      have same := quiet asks.1 answered
      subst same
      exact ih r (pre.2 r _ answered) (asks.2 r)

theorem asks_any (p : Prog S Q R α) : Asks (fun _ => True) p := by
  induction p with
  | done a => trivial
  | atomic upd next ih => exact fun s => ih s
  | call q next ih => exact ⟨trivial, fun r => ih r⟩

/-- What the answers to its requests keep of the world, an operation keeps. -/
theorem wp_asks_kept {env : Env S W Q R} (inv : W → Prop) {p : Prog S Q R α} {s : S} {w : W}
    (asks : Asks P p) (kept : ∀ {s w q r w'}, P q → inv w → env s w q r w' → inv w')
    (held : inv w) : wp (.ofEnv env) p (fun _ _ w' => inv w') s w := by
  induction p generalizing s w with
  | done a => exact held
  | atomic upd next ih => exact ⟨trivial, ih s (asks s) held⟩
  | call q next ih =>
      exact ⟨trivial, fun r w' answered => ih r (asks.2 r) (kept asks.1 held answered)⟩

/-- What every answer keeps of the world, an operation keeps. -/
theorem wp_world_kept {env : Env S W Q R} (inv : W → Prop) {p : Prog S Q R α} {s : S} {w : W}
    (kept : ∀ {s w q r w'}, inv w → env s w q r w' → inv w') (held : inv w) :
    wp (.ofEnv env) p (fun _ _ w' => inv w') s w :=
  wp_asks_kept inv (asks_any p) (fun _ => kept) held

/-- An operation whose requests are fine as long as its sections keep an invariant. -/
theorem wp_asks_where {C : Contract S W Q R} {G : S → S → Prop} (inv : S → Prop)
    {p : Prog S Q R α} {kept : α → Prop} {s : S} {w : W} (within : Within G p kept)
    (asks : Asks P p) (keep : ∀ {s s'}, inv s → G s s' → inv s')
    (ok : ∀ {s w q}, inv s → P q → C.ok s w q) (guar : ∀ {w s s'}, C.guar w s s') (held : inv s) :
    wp C p (fun a s' _ => inv s' ∧ kept a) s w := by
  induction p generalizing s w with
  | done a => exact ⟨held, within⟩
  | atomic upd next ih =>
      exact ⟨guar, ih s (within s).2 (asks s) (keep held (within s).1)⟩
  | call q next ih =>
      exact ⟨ok held asks.1, fun r w' _ => ih r (within r) (asks.2 r) held⟩

/-- What is known of an operation, and of its requests. -/
theorem wp_with_asks {env : Env S W Q R} {ok : S → W → Q → Prop} {p : Prog S Q R α}
    {post : α → S → W → Prop} {s : S} {w : W} (pre : wp (.ofEnv env) p post s w) (asks : Asks P p)
    (fine : ∀ {s w q}, P q → ok s w q) : wp ⟨env, ok, fun _ _ _ => True⟩ p post s w := by
  induction p generalizing s w with
  | done a => exact pre
  | atomic upd next ih => exact ⟨trivial, ih s pre.2 (asks s)⟩
  | call q next ih =>
      exact ⟨fine asks.1, fun r w' answered => ih r (pre.2 r w' answered) (asks.2 r)⟩

/-- A contract that asks for nothing is kept. -/
theorem wp_trivial {C : Contract S W Q R} {p : Prog S Q R α} {s : S} {w : W}
    (ok : ∀ {s w q}, C.ok s w q) (guar : ∀ {w s s'}, C.guar w s s') :
    wp C p (fun _ _ _ => True) s w := by
  induction p generalizing s w with
  | done a => trivial
  | atomic upd next ih => exact ⟨guar, ih s⟩
  | call q next ih => exact ⟨ok, fun r w' _ => ih r⟩

end Rules

/-- A contract without a world that allows every answer. -/
def Contract.free : Contract S Unit Q R := .ofEnv fun _ _ _ _ _ => True

/-- An operation that keeps `I`, on its own. -/
theorem wp_of_keeps {I : S → Prop} {p : Prog S Q R α} {post : α → Prop} {s : S}
    (keeps : Keeps I p post) (held : I s) :
    wp Contract.free p (fun a s _ => I s ∧ post a) s () := by
  induction p generalizing s with
  | done a => exact ⟨held, keeps⟩
  | atomic upd next ih => exact ⟨trivial, ih s (keeps s held).2 (keeps s held).1⟩
  | call q next ih => exact ⟨trivial, fun r _ _ => ih r (keeps r) held⟩

/-- What an operation keeps holds at every point of it. -/
theorem keeps_reach {I : S → Prop} {env : Env S W Q R} {post : α → Prop} {c c' : Conf S W Q R α}
    (keeps : Keeps I c.prog post) (held : I c.s) (reach : Reach env c c') :
    Keeps I c'.prog post ∧ I c'.s := by
  induction reach with
  | refl => exact ⟨keeps, held⟩
  | tail _ step ih =>
      obtain ⟨keeps, held⟩ := ih
      cases step with
      | atomic => exact ⟨(keeps _ held).2, (keeps _ held).1⟩
      | call => exact ⟨keeps _, held⟩

/-- A fact that holds against all answers holds against those of an environment. -/
theorem wp_of_free {C : Contract S W Q R} {p : Prog S Q R α} {post : α → S → Prop} {s : S} {w : W}
    (pre : wp Contract.free p (fun a s _ => post a s) s ())
    (ok : ∀ {s w q}, C.ok s w q) (guar : ∀ {w s s'}, C.guar w s s') :
    wp C p (fun a s _ => post a s) s w :=
  wp_world (fun _ _ => ⟨(), trivial⟩) ok (fun _ => guar) pre

theorem lift_bind {T P : Type} {U : P → Type} {get : S → T} {put : T → S → S} {inj : P → Q}
    {conv : ∀ p, R (inj p) → U p} (p : Prog T P U α) (f : α → Prog T P U β) :
    (p >>= f).lift get put inj conv =
      (p.lift get put inj conv >>= fun a => (f a).lift get put inj conv : Prog S Q R β) := by
  change (p.bind f).lift get put inj conv = (p.lift get put inj conv).bind _
  induction p with
  | done a => rfl
  | atomic upd next ih =>
      simp only [Prog.bind, Prog.lift, Prog.atomic.injEq, true_and]
      exact funext fun s => ih (get s)
  | call q next ih =>
      simp only [Prog.bind, Prog.lift, Prog.call.injEq, heq_eq_eq, true_and]
      exact funext fun r => ih (conv q r)

/-- The rule for a component that is run inside the whole: `allowed` says how its requests may be
answered, `inv` what they keep of the world. -/
theorem wp_lift_keeping {T P : Type} {U : P → Type} {get : S → T} {put : T → S → S} {inj : P → Q}
    {conv : ∀ p, R (inj p) → U p} {allowed : (p : P) → U p → Prop} {C : Contract S W Q R}
    {p : Prog T P U α} {mid : α → T → Prop} {post : α → S → W → Prop} (inv : W → Prop) {s : S}
    {w : W} (get_put : ∀ s t, get (put t s) = t) (put_put : ∀ s t t', put t' (put t s) = put t' s)
    (put_get : ∀ s, put (get s) s = s)
    (answers : ∀ {s w q r w'}, inv w → C.env s w (inj q) r w' → inv w' ∧ allowed q (conv q r))
    (ok : ∀ {s w q}, inv w → C.ok s w (inj q)) (guar : ∀ {w s t}, inv w → C.guar w s (put t s))
    (inner : wp (.ofEnv fun _ (_ : Unit) q r _ => allowed q r) p (fun a t _ => mid a t) (get s) ())
    (start : inv w) (done : ∀ a t w', inv w' → mid a t → post a (put t s) w') :
    wp C (p.lift get put inj conv) post s w := by
  have general : ∀ t w, inv w →
      wp (.ofEnv fun _ (_ : Unit) q r _ => allowed q r) p (fun a t _ => mid a t) t () →
      wp C (p.lift get put inj conv) post (put t s) w := by
    clear inner
    induction p with
    | done a => exact fun t w held inner => done a t w held inner
    | atomic upd next ih =>
        intro t w held inner
        refine ⟨guar held, ?_⟩
        change wp C (Prog.lift get put inj conv (next (get (put t s)))) post
          (put (upd (get (put t s))) (put t s)) w
        rw [get_put, put_put]
        exact ih t (upd t) w held inner.2
    | call q next ih =>
        intro t w held inner
        refine ⟨ok held, fun r w' answered => ?_⟩
        obtain ⟨held', fine⟩ := answers held answered
        exact ih (conv q r) t w' held' (inner.2 (conv q r) () fine)
  have whole := general (get s) w start inner
  rwa [put_get] at whole

/-- The same when the requests leave the world as it is. -/
theorem wp_lift_where {T P : Type} {U : P → Type} {get : S → T} {put : T → S → S} {inj : P → Q}
    {conv : ∀ p, R (inj p) → U p} {allowed : (p : P) → U p → Prop} {C : Contract S W Q R}
    {p : Prog T P U α} {mid : α → T → Prop} {post : α → S → W → Prop} {s : S} {w : W}
    (get_put : ∀ s t, get (put t s) = t) (put_put : ∀ s t t', put t' (put t s) = put t' s)
    (put_get : ∀ s, put (get s) s = s)
    (quiet : ∀ {s q r w'}, C.env s w (inj q) r w' → w = w' ∧ allowed q (conv q r))
    (ok : ∀ {s q}, C.ok s w (inj q)) (guar : ∀ {s t}, C.guar w s (put t s))
    (inner : wp (.ofEnv fun _ (_ : Unit) q r _ => allowed q r) p (fun a t _ => mid a t) (get s) ())
    (done : ∀ a t, mid a t → post a (put t s) w) :
    wp C (p.lift get put inj conv) post s w := by
  refine wp_lift_keeping (fun w' => w = w') get_put put_put put_get ?_ ?_ ?_ inner rfl ?_
  · rintro s _ q r w' rfl answered
    exact quiet answered
  · rintro s _ q rfl
    exact ok
  · rintro _ s t rfl
    exact guar
  · rintro a t _ rfl ended
    exact done a t ended

/-- The same against all answers. -/
theorem wp_lift {T P : Type} {U : P → Type} {get : S → T} {put : T → S → S} {inj : P → Q}
    {conv : ∀ p, R (inj p) → U p} {C : Contract S W Q R} {p : Prog T P U α}
    {mid : α → T → Prop} {post : α → S → W → Prop} {s : S} {w : W}
    (get_put : ∀ s t, get (put t s) = t) (put_put : ∀ s t t', put t' (put t s) = put t' s)
    (put_get : ∀ s, put (get s) s = s)
    (quiet : ∀ {s w q r w'}, C.env s w (inj q) r w' → w = w') (ok : ∀ {s w q}, C.ok s w (inj q))
    (guar : ∀ {w s t}, C.guar w s (put t s))
    (inner : wp Contract.free p (fun a t _ => mid a t) (get s) ())
    (done : ∀ a t, mid a t → post a (put t s) w) :
    wp C (p.lift get put inj conv) post s w :=
  wp_lift_where (C := C) get_put put_put put_get
    (fun answered => ⟨quiet answered, trivial⟩) ok guar inner done

end Interact
