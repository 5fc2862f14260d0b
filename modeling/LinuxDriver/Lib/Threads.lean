import LinuxDriver.Lib.Runs
import Mathlib.Logic.Function.Basic
/-!
# Threads that share a state

A program is a tree: it returns, or it makes one call and goes on with the
answer. Threads run programs over a shared state, one call at a time and in any
order; a call that cannot be made yet blocks its thread.

`Prog.Keeps` is about one program alone: with every call it moves a state of its
own, as a specification of the calls says. `System.holds_step` is about all of
them: an assertion about each thread holds in every run if the calls of a thread
keep its own assertion and do not touch the assertions of the others.
-/

namespace Threads

universe u v w

/-- A program that makes calls `Op`, each answered with a `Res`. -/
inductive Prog (Op : Type u) (Res : Op → Type v) (α : Type w) : Type (max u v w)
  | ret (a : α)
  | call (op : Op) (k : Res op → Prog Op Res α)

namespace Prog

variable {Op : Type u} {Res : Op → Type v}

/-- Go on with `f` where the program returns. -/
protected def bind {α β : Type w} : Prog Op Res α → (α → Prog Op Res β) → Prog Op Res β
  | ret a, f => f a
  | call op k, f => call op fun r => (k r).bind f

instance : Monad (Prog Op Res) where
  pure := ret
  bind := Prog.bind

/-- One call alone. -/
def op (o : Op) : Prog Op Res (Res o) := call o ret

@[simp] theorem pure_eq {α : Type v} (a : α) : (pure a : Prog Op Res α) = ret a := rfl
@[simp] theorem ret_bind {α β : Type v} (a : α) (f : α → Prog Op Res β) : ret a >>= f = f a := rfl
@[simp] theorem call_bind {α β : Type v} (o : Op) (k : Res o → Prog Op Res α) (f : α → Prog Op Res β) :
    call o k >>= f = call o fun r => k r >>= f := rfl

/-! ## One program -/

/-- Every call the program can make satisfies `φ`. -/
def All {α : Type w} (φ : Op → Prop) : Prog Op Res α → Prop
  | ret _ => True
  | call o k => φ o ∧ ∀ r, (k r).All φ

@[simp] theorem all_ret {α : Type w} (φ : Op → Prop) (a : α) : (ret a : Prog Op Res α).All φ = True := rfl
@[simp] theorem all_call {α : Type w} (φ : Op → Prop) (o : Op) (k : Res o → Prog Op Res α) :
    (call o k).All φ = (φ o ∧ ∀ r, (k r).All φ) := rfl

theorem All.mono {α : Type w} {φ ψ : Op → Prop} (h : ∀ o, φ o → ψ o) {p : Prog Op Res α} (hp : p.All φ) : p.All ψ := by
  induction p with
  | ret a => trivial
  | call o k ih => exact ⟨h o hp.1, fun r => ih r (hp.2 r)⟩

theorem all_bind {α β : Type v} {φ : Op → Prop} {p : Prog Op Res α} {f : α → Prog Op Res β} (hp : p.All φ)
    (hf : ∀ a, (f a).All φ) : (p >>= f).All φ := by
  induction p with
  | ret a => exact hf a
  | call o k ih => exact ⟨hp.1, fun r => ih r (hp.2 r)⟩

section Keeps
variable {G : Type*} {α β : Type v} (spec : (o : Op) → (Res o → G → Prop) → G → Prop)

/-- From the state `g` the calls of the program move by `spec`, and `post` holds where it returns. -/
def Keeps (post : α → G → Prop) : Prog Op Res α → G → Prop
  | ret a => post a
  | call o k => spec o fun r => Keeps post (k r)

@[simp] theorem keeps_ret (post : α → G → Prop) (a : α) : Keeps spec post (ret a : Prog Op Res α) = post a := rfl
@[simp] theorem keeps_call (post : α → G → Prop) (o : Op) (k : Res o → Prog Op Res α) :
    Keeps spec post (call o k) = spec o fun r => Keeps spec post (k r) := rfl

theorem keeps_bind (post : β → G → Prop) (p : Prog Op Res α) (f : α → Prog Op Res β) :
    Keeps spec post (p >>= f) = Keeps spec (fun a => Keeps spec post (f a)) p := by
  induction p with
  | ret a => rfl
  | call o k ih => exact congrArg (spec o) (funext ih)

/-- Calls that move nothing may be made at any time. -/
theorem keeps_of_all {spec : (o : Op) → (Res o → G → Prop) → G → Prop} {φ : Op → Prop} {g : G}
    (hs : ∀ o, φ o → ∀ post : Res o → G → Prop, (∀ r, post r g) → spec o post g) {post : α → G → Prop}
    {p : Prog Op Res α} (hp : p.All φ) (hpost : ∀ a, post a g) : Keeps spec post p g := by
  induction p with
  | ret a => exact hpost a
  | call o k ih => exact hs o hp.1 _ fun r => ih r (hp.2 r)

end Keeps

/-- The program alone on the state: what it returns, unless it blocks. -/
def solo {σ : Type*} {α : Type w} (exec : σ → (o : Op) → Option (Res o × σ)) : Prog Op Res α → σ → Option (α × σ)
  | ret a, s => some (a, s)
  | call o k, s => (exec s o).bind fun r => (k r.1).solo exec r.2

end Prog

/-! ## Many programs -/

/-- Jobs start where `enter` lets them, run their program, and end with `leave`. `exec` makes one call of a job, with
something from outside that decides its outcome; `none` blocks. -/
structure System (σ ι ε Job Op : Type) (Res : Op → Type) (α : Type) where
  prog : Job → Prog Op Res α
  enter : σ → ι → Job → Option σ
  exec : σ → ι → ε → (o : Op) → Option (Res o × σ)
  leave : σ → ι → Job → α → σ

/-- The shared state, and what each thread has still to do. -/
structure Pool (σ ι Job Op : Type) (Res : Op → Type) (α : Type) where
  shared : σ
  thread : ι → Option (Job × Prog Op Res α)

/-- Thread `i` starts job `j`, or makes its next call, which `e` answers. -/
inductive Act (ι ε Job : Type)
  | start (i : ι) (j : Job)
  | go (i : ι) (e : ε)

namespace System

variable {σ ι ε Job Op : Type} {Res : Op → Type} {α : Type} [DecidableEq ι] (S : System σ ι ε Job Op Res α)

/-- A job starts where it is let in; a thread makes one call. -/
def step (s : Pool σ ι Job Op Res α) : Act ι ε Job → Pool σ ι Job Op Res α
  | .start i j =>
    match s.thread i, S.enter s.shared i j with
    | none, some shared => ⟨shared, Function.update s.thread i (some (j, S.prog j))⟩
    | _, _ => s
  | .go i e =>
    match s.thread i with
    | none => s
    | some (j, .ret a) => ⟨S.leave s.shared i j a, Function.update s.thread i none⟩
    | some (j, .call o k) =>
      match S.exec s.shared i e o with
      | none => s
      | some (r, shared) => ⟨shared, Function.update s.thread i (some (j, k r))⟩

/-- What a step can do. -/
theorem step_cases (s : Pool σ ι Job Op Res α) (a : Act ι ε Job) :
    S.step s a = s ∨
    (∃ i j shared, a = .start i j ∧ s.thread i = none ∧ S.enter s.shared i j = some shared ∧
      S.step s a = ⟨shared, Function.update s.thread i (some (j, S.prog j))⟩) ∨
    (∃ i e j r, a = .go i e ∧ s.thread i = some (j, .ret r) ∧
      S.step s a = ⟨S.leave s.shared i j r, Function.update s.thread i none⟩) ∨
    (∃ i e j o k r shared, a = .go i e ∧ s.thread i = some (j, .call o k) ∧ S.exec s.shared i e o = some (r, shared) ∧
      S.step s a = ⟨shared, Function.update s.thread i (some (j, k r))⟩) := by
  cases a with
  | start i j =>
    unfold step
    dsimp only
    split
    · rename_i shared hidle hin
      exact .inr (.inl ⟨i, j, shared, rfl, hidle, hin, rfl⟩)
    · exact .inl rfl
  | go i e =>
    unfold step
    dsimp only
    split
    · exact .inl rfl
    · rename_i j r hthread
      exact .inr (.inr (.inl ⟨i, e, j, r, rfl, hthread, rfl⟩))
    · rename_i j o k hthread
      split
      · exact .inl rfl
      · rename_i r shared hexec
        exact .inr (.inr (.inr ⟨i, e, j, o, k, r, shared, rfl, hthread, hexec, rfl⟩))

/-! ## An assertion for each thread -/

variable (I : σ → Prop) (T : σ → ι → Option (Job × Prog Op Res α) → Prop)

/-- The shared state satisfies `I`, and every thread its assertion. -/
def Holds (s : Pool σ ι Job Op Res α) : Prop := I s.shared ∧ ∀ i, T s.shared i (s.thread i)

variable {I T}

/-- Changing thread `i` keeps the assertions, if the change leaves those of the others alone. -/
theorem holds_update {shared shared' : σ} {thread : ι → Option (Job × Prog Op Res α)} {i : ι}
    {p : Option (Job × Prog Op Res α)} (h : ∀ i, T shared i (thread i)) (hI : I shared') (hi : T shared' i p)
    (hothers : ∀ i' ≠ i, ∀ p, T shared i' p → T shared' i' p) :
    Holds I T (⟨shared', Function.update thread i p⟩ : Pool σ ι Job Op Res α) := by
  refine ⟨hI, ?_⟩
  intro i'
  dsimp only
  by_cases hii : i' = i
  · subst hii
    rwa [Function.update_self]
  · rw [Function.update_of_ne hii]
    exact hothers i' hii _ (h i')

/-- The assertions are kept by a step that meets `C`. -/
theorem holds_step {C : Pool σ ι Job Op Res α → Act ι ε Job → Prop}
    (hstart : ∀ sh i j sh', S.enter sh i j = some sh' → I sh → T sh i none →
      I sh' ∧ T sh' i (some (j, S.prog j)) ∧ ∀ i' ≠ i, ∀ p, T sh i' p → T sh' i' p)
    (hgo : ∀ s i e j o k r sh', C s (.go i e) → s.thread i = some (j, .call o k) → S.exec s.shared i e o = some (r, sh') →
      Holds I T s → I sh' ∧ T sh' i (some (j, k r)) ∧ ∀ i' ≠ i, ∀ p, T s.shared i' p → T sh' i' p)
    (hend : ∀ sh i j r, I sh → T sh i (some (j, .ret r)) →
      I (S.leave sh i j r) ∧ T (S.leave sh i j r) i none ∧ ∀ i' ≠ i, ∀ p, T sh i' p → T (S.leave sh i j r) i' p)
    (s : Pool σ ι Job Op Res α) (a : Act ι ε Job) (h : Holds I T s) (hc : C s a) : Holds I T (S.step s a) := by
  obtain ⟨hI, hT⟩ := h
  rcases S.step_cases s a with hs | ⟨i, j, sh, rfl, hidle, hin, hs⟩ | ⟨i, e, j, r, rfl, hthread, hs⟩ |
    ⟨i, e, j, o, k, r, sh, rfl, hthread, hexec, hs⟩
  · rw [hs]
    exact ⟨hI, hT⟩
  · obtain ⟨hI', hi, hothers⟩ := hstart _ i j sh hin hI (hidle ▸ hT i)
    rw [hs]
    exact holds_update hT hI' hi hothers
  · obtain ⟨hI', hi, hothers⟩ := hend _ i j r hI (hthread ▸ hT i)
    rw [hs]
    exact holds_update hT hI' hi hothers
  · obtain ⟨hI', hi, hothers⟩ := hgo s i e j o k r sh hc hthread hexec ⟨hI, hT⟩
    rw [hs]
    exact holds_update hT hI' hi hothers

end System

end Threads
