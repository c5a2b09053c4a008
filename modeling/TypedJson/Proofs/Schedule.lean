import TypedJson.Proofs.Placement
import TypedJson.Proofs.Spans
/-!
# Scheduling only appends

A scheduling computation reads nothing of the patch it is given: it gives the same outcome
from every patch and adds the same edits after those already there, whether it succeeds or
fails. That is what makes cutting the patch back to its length before a declaration undo
exactly that declaration. The computations of the retype pass are built from `pure`, `throw`,
binds, loops and steps that append, and each of these keeps the property.
-/
namespace TypedJson.Scheduling

variable {α β γ : Type}

def outcome (m : Scheduling α) : Except Error α := (m.run.run {}).1

def edits (m : Scheduling α) : List Edit := (m.run.run {}).2.edits

def AppendsOnly (m : Scheduling α) : Prop :=
  ∀ patch : Patch, m.run.run patch = (m.outcome, ⟨patch.edits ++ m.edits⟩)

theorem appendsOnly_of_run {m : Scheduling α} {r : Except Error α} {es : List Edit}
    (runs : ∀ patch : Patch, m.run.run patch = (r, ⟨patch.edits ++ es⟩)) :
    m.AppendsOnly ∧ m.outcome = r ∧ m.edits = es := by
  have empty := runs {}
  simp only [List.nil_append] at empty
  have hr : m.outcome = r := by simp only [outcome, empty]
  have hes : m.edits = es := by simp only [edits, empty]
  exact ⟨fun patch => by rw [hr, hes]; exact runs patch, hr, hes⟩

theorem appendsOnly_pure (a : α) :
    (pure a : Scheduling α).AppendsOnly ∧ (pure a : Scheduling α).outcome = .ok a ∧
      (pure a : Scheduling α).edits = [] :=
  appendsOnly_of_run fun patch => by simp; rfl

theorem appendsOnly_throw (e : Error) :
    (throw e : Scheduling α).AppendsOnly ∧ (throw e : Scheduling α).outcome = .error e ∧
      (throw e : Scheduling α).edits = [] :=
  appendsOnly_of_run fun patch => by simp; rfl

theorem appendsOnly_liftExcept (x : Except Error α) :
    (liftExcept x : Scheduling α).AppendsOnly ∧ (liftExcept x : Scheduling α).outcome = x ∧
      (liftExcept x : Scheduling α).edits = [] := by
  cases x with
  | error e => exact appendsOnly_throw e
  | ok a => exact appendsOnly_pure a

@[simp] theorem outcome_liftExcept (x : Except Error α) : (liftExcept x : Scheduling α).outcome = x :=
  (appendsOnly_liftExcept x).2.1

theorem appendsOnly_modifyGet {f : Patch → α × Patch} {a : α} {es : List Edit}
    (appends : ∀ patch : Patch, f patch = (a, ⟨patch.edits ++ es⟩)) :
    (modifyGet f : Scheduling α).AppendsOnly ∧ (modifyGet f : Scheduling α).outcome = .ok a ∧
      (modifyGet f : Scheduling α).edits = es :=
  appendsOnly_of_run fun patch => by
    show (pure ((fun p : α × Patch => ((Except.ok p.1 : Except Error α), p.2)) (f patch)) :
      Id (Except Error α × Patch)) = _
    rw [appends patch]
    rfl

theorem run_bind {m : Scheduling α} {f : α → Scheduling β} (first : m.AppendsOnly)
    (next : ∀ a, (f a).AppendsOnly) (patch : Patch) :
    (m >>= f).run.run patch =
      ((match m.outcome with | .ok a => (f a).outcome | .error e => .error e),
        ⟨patch.edits ++ (m.edits ++
          (match m.outcome with | .ok a => (f a).edits | .error _ => []))⟩) := by
  simp only [ExceptT.run_bind, StateT.run_bind]
  rw [first patch]
  cases m.outcome with
  | ok a =>
    show ((f a).run.run ⟨patch.edits ++ m.edits⟩ : Id _) = _
    rw [next a]
    simp
  | error e =>
    simp
    rfl

theorem appendsOnly_bind {m : Scheduling α} {f : α → Scheduling β} (first : m.AppendsOnly)
    (next : ∀ a, (f a).AppendsOnly) : (m >>= f).AppendsOnly :=
  (appendsOnly_of_run (run_bind first next)).1

theorem outcome_bind {m : Scheduling α} {f : α → Scheduling β} (first : m.AppendsOnly)
    (next : ∀ a, (f a).AppendsOnly) :
    (m >>= f).outcome = (match m.outcome with | .ok a => (f a).outcome | .error e => .error e) :=
  (appendsOnly_of_run (run_bind first next)).2.1

theorem edits_bind {m : Scheduling α} {f : α → Scheduling β} (first : m.AppendsOnly)
    (next : ∀ a, (f a).AppendsOnly) :
    (m >>= f).edits = m.edits ++ (match m.outcome with | .ok a => (f a).edits | .error _ => []) :=
  (appendsOnly_of_run (run_bind first next)).2.2

def Sound (P : Error → Prop) (m : Scheduling α) : Prop :=
  m.AppendsOnly ∧ ∀ e, m.outcome = .error e → P e

section Sound

variable {P : Error → Prop}

theorem sound_pure (a : α) : (pure a : Scheduling α).Sound P := by
  refine ⟨(appendsOnly_pure a).1, fun e failed => ?_⟩
  rw [(appendsOnly_pure a).2.1] at failed
  cases failed

theorem sound_throw {e : Error} (allowed : P e) : (throw e : Scheduling α).Sound P := by
  refine ⟨(appendsOnly_throw e).1, fun e' failed => ?_⟩
  rw [(appendsOnly_throw e).2.1] at failed
  cases failed
  exact allowed

theorem sound_liftExcept {x : Except Error α} (allowed : ∀ e, x = .error e → P e) :
    (liftExcept x : Scheduling α).Sound P := by
  refine ⟨(appendsOnly_liftExcept x).1, fun e failed => ?_⟩
  rw [(appendsOnly_liftExcept x).2.1] at failed
  exact allowed e failed

theorem sound_modifyGet {f : Patch → α × Patch} {a : α} {es : List Edit}
    (appends : ∀ patch : Patch, f patch = (a, ⟨patch.edits ++ es⟩)) :
    (modifyGet f : Scheduling α).Sound P := by
  refine ⟨(appendsOnly_modifyGet appends).1, fun e failed => ?_⟩
  rw [(appendsOnly_modifyGet appends).2.1] at failed
  cases failed

theorem sound_bind {m : Scheduling α} {f : α → Scheduling β} (first : m.Sound P)
    (next : ∀ a, (f a).Sound P) : (m >>= f).Sound P := by
  refine ⟨appendsOnly_bind first.1 fun a => (next a).1, fun e failed => ?_⟩
  rw [outcome_bind first.1 fun a => (next a).1] at failed
  split at failed
  · next a _ => exact (next a).2 e failed
  · next e' fault =>
    cases failed
    exact first.2 e fault

theorem sound_forIn {xs : List γ} {f : γ → β → Scheduling (ForInStep β)}
    (body : ∀ x ∈ xs, ∀ b, (f x b).Sound P) (b : β) : (forIn xs b f).Sound P := by
  induction xs generalizing b with
  | nil => simpa using (sound_pure b : (pure b : Scheduling β).Sound P)
  | cons x xs ih =>
    rw [List.forIn_cons]
    apply sound_bind (body x (List.mem_cons_self ..) b)
    intro step
    cases step with
    | done b' => exact sound_pure b'
    | yield b' => exact ih (fun y member => body y (List.mem_cons_of_mem x member)) b'

end Sound

theorem edits_bind_cases {m : Scheduling α} {f : α → Scheduling β} (first : m.AppendsOnly)
    (next : ∀ a, (f a).AppendsOnly) :
    (m >>= f).edits = m.edits ∨ ∃ a, (m >>= f).edits = m.edits ++ (f a).edits := by
  rw [edits_bind first next]
  split
  · next a _ => exact .inr ⟨a, rfl⟩
  · exact .inl (List.append_nil _)

def Confined (inside : Edit → Prop) (m : Scheduling α) : Prop :=
  m.AppendsOnly ∧ (∀ e ∈ m.edits, inside e) ∧ m.edits.Pairwise Edit.Apart

section Confined

variable {inside inside' : Edit → Prop}

theorem Confined.mono {m : Scheduling α} (weaker : ∀ e, inside e → inside' e)
    (confined : m.Confined inside) : m.Confined inside' :=
  ⟨confined.1, fun e member => weaker e (confined.2.1 e member), confined.2.2⟩

theorem confined_of_edits_nil {m : Scheduling α} (appends : m.AppendsOnly) (none : m.edits = []) :
    m.Confined inside := by
  refine ⟨appends, ?_, ?_⟩
  · rw [none]
    intro e member
    cases member
  · rw [none]
    exact .nil

theorem confined_pure (a : α) : (pure a : Scheduling α).Confined inside :=
  confined_of_edits_nil (appendsOnly_pure a).1 (appendsOnly_pure a).2.2

theorem confined_throw (e : Error) : (throw e : Scheduling α).Confined inside :=
  confined_of_edits_nil (appendsOnly_throw e).1 (appendsOnly_throw e).2.2

theorem confined_modifyGet {f : Patch → α × Patch} {a : α} {es : List Edit}
    (appends : ∀ patch : Patch, f patch = (a, ⟨patch.edits ++ es⟩))
    (placed : (∀ e ∈ es, inside e) ∧ es.Pairwise Edit.Apart) :
    (modifyGet f : Scheduling α).Confined inside := by
  obtain ⟨appendsOnly, _, scheduled⟩ := appendsOnly_modifyGet appends
  rw [Confined, scheduled]
  exact ⟨appendsOnly, placed⟩

theorem confined_bind {m : Scheduling α} {f : α → Scheduling β} (first : m.Confined inside)
    (next : ∀ a, (f a).Confined inside') (apart : ∀ e e', inside e → inside' e' → e.Apart e') :
    (m >>= f).Confined fun e => inside e ∨ inside' e := by
  refine ⟨appendsOnly_bind first.1 fun a => (next a).1, ?_⟩
  rcases edits_bind_cases first.1 (fun a => (next a).1) with alone | ⟨a, both⟩
  · rw [alone]
    exact ⟨fun e member => .inl (first.2.1 e member), first.2.2⟩
  · rw [both]
    refine ⟨fun e member => ?_, List.pairwise_append.mpr ⟨first.2.2, (next a).2.2, ?_⟩⟩
    · rcases List.mem_append.mp member with member | member
      · exact .inl (first.2.1 e member)
      · exact .inr ((next a).2.1 e member)
    · intro e member e' member'
      exact apart e e' (first.2.1 e member) ((next a).2.1 e' member')

theorem confined_bind_quiet {m : Scheduling α} {f : α → Scheduling β} (quiet : m.AppendsOnly)
    (none : m.edits = []) (next : ∀ a, (f a).Confined inside) : (m >>= f).Confined inside :=
  (confined_bind (confined_of_edits_nil quiet none : m.Confined fun _ => False) next
    fun _ _ no => no.elim).mono fun _ placed => placed.resolve_left id

theorem confined_bind_pure {m : Scheduling α} (g : α → β) (first : m.Confined inside) :
    (m >>= fun a => pure (g a)).Confined inside :=
  (confined_bind first
    (fun a => (confined_pure (g a) : (pure (g a) : Scheduling β).Confined fun _ => False))
    fun _ _ _ no => no.elim).mono fun _ placed => placed.resolve_right id

theorem confined_forIn {xs : List γ} {f : γ → β → Scheduling (ForInStep β)}
    {inside : γ → Edit → Prop}
    (apart : xs.Pairwise fun x y => ∀ e e', inside x e → inside y e' → e.Apart e')
    (body : ∀ x ∈ xs, ∀ b, (f x b).Confined (inside x)) (b : β) :
    (forIn xs b f).Confined fun e => ∃ x ∈ xs, inside x e := by
  induction xs generalizing b with
  | nil => exact confined_pure b
  | cons x xs ih =>
    obtain ⟨headApart, tailApart⟩ := List.pairwise_cons.mp apart
    have tail : ∀ y ∈ xs, ∀ b, (f y b).Confined (inside y) :=
      fun y member => body y (List.mem_cons_of_mem x member)
    rw [List.forIn_cons]
    refine (confined_bind (body x (List.mem_cons_self ..) b)
      (fun step => (?_ : Confined (fun e => ∃ y ∈ xs, inside y e) _)) ?_).mono ?_
    · -- after the first round the loop either stops or goes on over the tail
      cases step with
      | done b' => exact confined_pure b'
      | yield b' => exact ih tailApart tail b'
    · rintro e e' inX ⟨y, member, inY⟩
      exact headApart y member e e' inX inY
    · rintro e (inX | ⟨y, member, inY⟩)
      · exact ⟨x, List.mem_cons_self .., inX⟩
      · exact ⟨y, List.mem_cons_of_mem x member, inY⟩

end Confined

def Exact (R : α → Prop) (S : Edit → Prop) (m : Scheduling α) : Prop :=
  m.AppendsOnly ∧ ∀ a, m.outcome = .ok a → R a ∧ ∀ e, e ∈ m.edits ↔ S e

section Exact

variable {R : α → Prop} {R' : β → Prop} {S S' : Edit → Prop}

theorem Exact.congr {m : Scheduling α} (same : ∀ a, m.outcome = .ok a → ∀ e, S e ↔ S' e)
    (exact : m.Exact R S) : m.Exact R S' := by
  refine ⟨exact.1, fun a succeeded => ⟨(exact.2 a succeeded).1, fun e => ?_⟩⟩
  rw [(exact.2 a succeeded).2 e]
  exact same a succeeded e

theorem Exact.weaken {m : Scheduling α} {R₂ : α → Prop} (weaker : ∀ a, R a → R₂ a)
    (exact : m.Exact R S) : m.Exact R₂ S :=
  ⟨exact.1, fun a succeeded => ⟨weaker a (exact.2 a succeeded).1, (exact.2 a succeeded).2⟩⟩

theorem exact_pure {a : α} (held : R a) : (pure a : Scheduling α).Exact R fun _ => False := by
  obtain ⟨appends, gives, none⟩ := appendsOnly_pure a
  refine ⟨appends, fun a' succeeded => ?_⟩
  rw [gives] at succeeded
  cases succeeded
  exact ⟨held, fun e => by simp [none]⟩

theorem exact_pure_quiet {a : α} (held : R a) (none : ∀ e, ¬S e) :
    (pure a : Scheduling α).Exact R S :=
  (exact_pure held).congr fun _ _ e => iff_of_false id (none e)

theorem exact_throw (e : Error) : (throw e : Scheduling α).Exact R S := by
  obtain ⟨appends, fails, _⟩ := (appendsOnly_throw e : (throw e : Scheduling α).AppendsOnly ∧ _)
  refine ⟨appends, fun a succeeded => ?_⟩
  rw [fails] at succeeded
  cases succeeded

theorem exact_liftExcept (x : Except Error α) :
    (liftExcept x : Scheduling α).Exact (fun a => x = .ok a) fun _ => False := by
  obtain ⟨appends, gives, none⟩ := appendsOnly_liftExcept x
  refine ⟨appends, fun a succeeded => ⟨gives ▸ succeeded, fun e => by simp [none]⟩⟩

theorem exact_modifyGet {f : Patch → α × Patch} {a : α} {es : List Edit}
    (appends : ∀ patch : Patch, f patch = (a, ⟨patch.edits ++ es⟩)) :
    (modifyGet f : Scheduling α).Exact (· = a) (· ∈ es) := by
  obtain ⟨appendsOnly, gives, scheduled⟩ := appendsOnly_modifyGet appends
  refine ⟨appendsOnly, fun a' succeeded => ?_⟩
  rw [gives] at succeeded
  cases succeeded
  exact ⟨rfl, fun e => by rw [scheduled]⟩

theorem exact_bind_pure {Q : α → Prop} {m : Scheduling α} (g : α → β) (first : m.Exact Q S)
    (held : ∀ a, Q a → R' (g a)) : (m >>= fun a => pure (g a)).Exact R' S := by
  have appends := fun a => (appendsOnly_pure (g a)).1
  refine ⟨appendsOnly_bind first.1 appends, fun r succeeded => ?_⟩
  rw [outcome_bind first.1 appends] at succeeded
  split at succeeded
  · next a firstSucceeded =>
    rw [(appendsOnly_pure (g a)).2.1] at succeeded
    cases succeeded
    obtain ⟨gave, scheduled⟩ := first.2 a firstSucceeded
    refine ⟨held a gave, fun e => ?_⟩
    rw [edits_bind first.1 appends, firstSucceeded]
    simp only [(appendsOnly_pure (g _)).2.2, List.append_nil, scheduled e]
  · cases succeeded

theorem exact_bind {Q : α → Prop} {T : α → Edit → Prop} {m : Scheduling α}
    {f : α → Scheduling β} (first : m.Exact Q S) (next : ∀ a, (f a).Exact R' (T a)) :
    (m >>= f).Exact R' fun e => S e ∨ ∃ a, m.outcome = .ok a ∧ T a e := by
  have appends := fun a => (next a).1
  refine ⟨appendsOnly_bind first.1 appends, fun r succeeded => ?_⟩
  rw [outcome_bind first.1 appends] at succeeded
  split at succeeded
  · next a firstSucceeded =>
    obtain ⟨held, rest⟩ := (next a).2 r succeeded
    refine ⟨held, fun e => ?_⟩
    rw [edits_bind first.1 appends, firstSucceeded, List.mem_append, (first.2 a firstSucceeded).2 e,
      rest e]
    simp
  · cases succeeded

theorem exact_forIn {xs : List γ} {f : γ → β → Scheduling (ForInStep β)}
    {T : γ → Edit → Prop}
    (body : ∀ x ∈ xs, ∀ b, (f x b).Exact (fun step => ∃ b', step = .yield b') (T x)) (b : β) :
    (forIn xs b f).Exact (fun _ => True) fun e => ∃ x ∈ xs, T x e := by
  induction xs generalizing b with
  | nil => exact exact_pure_quiet trivial fun e => by simp
  | cons x xs ih =>
    have tail : ∀ y ∈ xs, ∀ b, (f y b).Exact (fun step => ∃ b', step = .yield b') (T y) :=
      fun y member => body y (List.mem_cons_of_mem x member)
    have round := body x (List.mem_cons_self ..) b
    -- after the first round the loop stops or goes on over the tail
    have next : ∀ step : ForInStep β, Exact (fun _ => True)
        (fun e => match step with
          | .done _ => False
          | .yield _ => ∃ y ∈ xs, T y e)
        (match step with
          | .done b => pure b
          | .yield b => forIn xs b f) := by
      intro step
      cases step with
      | done b' => exact exact_pure trivial
      | yield b' => exact ih tail b'
    rw [List.forIn_cons]
    refine (exact_bind round next).congr fun r succeeded e => ?_
    have stepped := (outcome_bind round.1 fun step => (next step).1).symm.trans succeeded
    split at stepped
    · next step roundSucceeded =>
      -- the first round went on, so the rest of the loop ran
      obtain ⟨b', rfl⟩ := (round.2 step roundSucceeded).1
      simp [roundSucceeded]
    · cases stepped

end Exact

variable {source : String}

theorem confined_forIn_ordered {xs : List γ} {span : γ → Option (Nat × Nat)} {lo hi : Nat}
    (ordered : Syntax.Ordered span lo hi xs) {f : γ → β → Scheduling (ForInStep β)}
    (body : ∀ x ∈ xs, ∀ b, (f x b).Confined (Edit.Within source (span x))) (b : β) :
    (forIn xs b f).Confined (Edit.Fits source lo hi) := by
  have apart : xs.Pairwise fun x y => ∀ e e', Edit.Within source (span x) e →
      Edit.Within source (span y) e' → e.Apart e' := by
    refine ordered.pairwise.imp fun {x y} before e e' inX inY => ?_
    exact inX.apart inY fun a b c d xSpan ySpan => .inl (before a b c d xSpan ySpan)
  refine (confined_forIn apart body b).mono ?_
  rintro e ⟨x, member, a, c, spanned, start, nonempty, stop, valid⟩
  obtain ⟨lower, _, upper⟩ := ordered.mem member spanned
  exact ⟨Nat.le_trans lower start, nonempty, Nat.le_trans stop upper, valid⟩

end TypedJson.Scheduling
