import TypedJson.Edit.File
import TypedJson.Proofs.Splice
/-!
# Calls on the declaration buffer

A buffer is made over a text, loaded from a file or at hand, and then takes three calls: a
replace schedules an edit, a commit applies the pending edits, and a save commits and writes
the text back when commits changed it. The file system's part in a save is its answer to the
one write the save makes; otherwise a save is a pure step of the buffer (`Writer.save_eq`).

A commit that fails changes nothing; one that goes through applies the pending patch to the
text, empties it and gives the number of edits it held. Over every sequence of calls, the
pending patch holds exactly the edits scheduled since a commit last went through, the one a
save begins with included, and a clean buffer holds the text it was made with or last wrote,
so a save that writes nothing drops no committed change (`Writer.calls_consistent`).
-/
namespace TypedJson

namespace Writer

variable {w w' : Writer}

theorem patch_eq_empty {p : Patch} (empty : p.isEmpty = true) : p = {} := by
  cases p with
  | mk edits => simpa [Patch.isEmpty] using empty

theorem commit_error {e : Error} (failed : w.commit = (w', .error e)) :
    w' = w ∧ w.patch.apply w.content = .error e := by
  unfold commit at failed
  split at failed
  · cases failed
  · split at failed
    · next rejected =>
      obtain ⟨rfl, same⟩ := Prod.mk.inj failed
      cases same
      exact ⟨rfl, rejected⟩
    · dsimp only at failed
      split at failed <;> cases failed

theorem commit_ok {n : Nat} (done : w.commit = (w', .ok n)) :
    w.patch.apply w.content = .ok w'.content ∧ w'.patch = {} ∧ n = w.pending ∧
      w'.dirty = (w.dirty || w'.content != w.content) ∧ w'.path = w.path := by
  unfold commit at done
  split at done
  · next empty =>
    obtain ⟨rfl, counted⟩ := Prod.mk.inj done
    cases counted
    have none := patch_eq_empty empty
    refine ⟨by rw [none]; exact Patch.apply_nil _, none, by simp [pending, none, Patch.len], ?_, rfl⟩
    simp
  · split at done
    · cases done
    · next updated applied =>
      dsimp only at done
      split at done
      · next changed =>
        obtain ⟨rfl, counted⟩ := Prod.mk.inj done
        cases counted
        exact ⟨applied, rfl, rfl, by simp [changed], rfl⟩
      · next same =>
        obtain ⟨rfl, counted⟩ := Prod.mk.inj done
        cases counted
        have unchanged : updated = w.content := by simpa using same
        exact ⟨by rw [applied, unchanged], rfl, rfl, by simp, rfl⟩

variable {m : Type → Type} [Monad m] [Files.FileSystem m]

def write (w : Writer) : m (Except Files.Fault Unit) := do
  let mode ← Files.FileSystem.permissionsOf w.path
  Files.FileSystem.replaceFile w.path w.content.toUTF8 mode

def saveWith (w : Writer) (answer : Except Files.Fault Unit) : Writer × Except Error Bool :=
  match w.commit with
  | (w, .error e) => (w, .error e)
  | (w, .ok _) =>
    if !w.dirty then (w, .ok false)
    else match answer with
      | .error f => (w, .error (.io w.path f.message))
      | .ok () => ({ w with dirty := false }, .ok true)

theorem save_eq [LawfulMonad m] (w : Writer) :
    (w.save : m (Writer × Except Error Bool)) =
      if (w.commit).2.isOk && (w.commit).1.dirty then (w.saveWith ·) <$> (w.commit).1.write
      else pure (w.saveWith (.ok ())) := by
  unfold save saveWith
  generalize w.commit = committed
  obtain ⟨w₁, result⟩ := committed
  cases result with
  | error e => rfl
  | ok n =>
    cases dirty : w₁.dirty
    · simp [dirty]
    · simp only [dirty, Bool.not_true, Bool.false_eq_true, if_false, write, map_bind]
      congr
      funext mode
      rw [map_eq_pure_bind]
      congr
      funext answer
      cases answer <;> rfl

theorem saveWith_cases (w : Writer) (answer : Except Files.Fault Unit) :
    (∃ e, w.commit = (w, .error e) ∧ w.saveWith answer = (w, .error e)) ∨
    (∃ w₁ n, w.commit = (w₁, .ok n) ∧ w₁.dirty = false ∧ w.saveWith answer = (w₁, .ok false)) ∨
    (∃ w₁ n, ∃ f : Files.Fault, w.commit = (w₁, .ok n) ∧ w₁.dirty = true ∧
      w.saveWith answer = (w₁, .error (.io w₁.path f.message))) ∨
    (∃ w₁ n, w.commit = (w₁, .ok n) ∧ w₁.dirty = true ∧
      w.saveWith answer = ({ w₁ with dirty := false }, .ok true)) := by
  unfold saveWith
  rcases committed : w.commit with ⟨w₁, result⟩
  cases result with
  | error e =>
    exact .inl ⟨e, by rw [(commit_error committed).1], by rw [(commit_error committed).1]⟩
  | ok n =>
    cases dirty : w₁.dirty with
    | false => exact .inr (.inl ⟨w₁, n, rfl, dirty, by simp [dirty]⟩)
    | true =>
      cases answer with
      | error f => exact .inr (.inr (.inl ⟨w₁, n, f, rfl, dirty, by simp [dirty]⟩))
      | ok u => exact .inr (.inr (.inr ⟨w₁, n, rfl, dirty, by simp [dirty]⟩))

inductive Call where
  | replace (start stop : Nat) (text : String)
  | commit
  | save (answer : Except Files.Fault Unit)
deriving Repr

structure Session where
  writer : Writer
  saved : String
  scheduled : List Edit

namespace Session

def start (path text : String) : Session := ⟨ofSource path text, text, []⟩

def call (s : Session) : Call → Session
  | .replace start stop text =>
    ⟨s.writer.replace start stop text, s.saved, s.scheduled ++ [⟨start, stop, text⟩]⟩
  | .commit =>
    ⟨(s.writer.commit).1, s.saved, if (s.writer.commit).2.isOk then [] else s.scheduled⟩
  | .save answer =>
    match s.writer.saveWith answer with
    | (w, .ok true) => ⟨w, w.content, []⟩
    | (w, _) => ⟨w, s.saved, if (s.writer.commit).2.isOk then [] else s.scheduled⟩

def run (s : Session) (calls : List Call) : Session := calls.foldl call s

structure Consistent (s : Session) : Prop where
  pending : s.writer.patch = ⟨s.scheduled⟩
  clean : s.writer.dirty = false → s.writer.content = s.saved

theorem start_consistent (path text : String) : (start path text).Consistent :=
  ⟨rfl, fun _ => rfl⟩

theorem Consistent.commit {s : Session} (consistent : s.Consistent) {w : Writer}
    {result : Except Error Nat} (committed : s.writer.commit = (w, result)) :
    Consistent ⟨w, s.saved, if result.isOk then [] else s.scheduled⟩ := by
  cases result with
  | error e =>
    rw [(commit_error committed).1]
    exact consistent
  | ok n =>
    obtain ⟨_, emptied, _, dirty, _⟩ := commit_ok committed
    refine ⟨emptied, fun clean => ?_⟩
    -- a clean buffer after a commit was clean before it and kept its text
    rw [clean, eq_comm, Bool.or_eq_false_iff] at dirty
    simpa using (bne_eq_false_iff_eq.mp dirty.2).trans (consistent.clean dirty.1)

theorem Consistent.call {s : Session} (consistent : s.Consistent) (c : Call) :
    (s.call c).Consistent := by
  cases c with
  | replace start stop text =>
    exact ⟨by simp [Session.call, Writer.replace, Patch.replace, consistent.pending],
      consistent.clean⟩
  | commit =>
    rcases committed : s.writer.commit with ⟨w, result⟩
    simpa [Session.call, committed] using consistent.commit committed
  | save answer =>
    rcases saveWith_cases s.writer answer with
      ⟨e, committed, saved⟩ | ⟨w, n, committed, clean, saved⟩ |
      ⟨w, n, f, committed, dirty, saved⟩ | ⟨w, n, committed, dirty, saved⟩
    · simpa [Session.call, saved, committed] using consistent.commit committed
    · simpa [Session.call, saved, committed] using consistent.commit committed
    · simpa [Session.call, saved, committed] using consistent.commit committed
    · -- the save wrote the text it holds
      obtain ⟨_, emptied, _, _, _⟩ := commit_ok committed
      exact ⟨by simpa [Session.call, saved] using emptied, fun _ => by simp [Session.call, saved]⟩

theorem Consistent.run {s : Session} (consistent : s.Consistent) (calls : List Call) :
    (s.run calls).Consistent := by
  induction calls generalizing s with
  | nil => exact consistent
  | cons c rest ih => exact ih (consistent.call c)

end Session

/-- Over every sequence of calls on a buffer made from a text, the pending patch holds exactly
the edits scheduled since a commit last went through, so the pending count is their number; a
commit that fails changes nothing; one that goes through applies exactly those edits to the
text, empties the patch and gives their number; and a clean buffer holds
the text it was made with or last wrote, so a save that writes nothing leaves it holding that
text. -/
theorem calls_consistent (path text : String) (calls : List Call) :
    let s := (Session.start path text).run calls
    s.writer.patch = ⟨s.scheduled⟩ ∧ s.writer.pending = s.scheduled.length ∧
    (s.writer.dirty = false → s.writer.content = s.saved) ∧
    (∀ w e, s.writer.commit = (w, .error e) → w = s.writer) ∧
    (∀ w n, s.writer.commit = (w, .ok n) →
      Patch.apply ⟨s.scheduled⟩ s.writer.content = .ok w.content ∧ w.patch = {} ∧
        n = s.scheduled.length) ∧
    (∀ answer w, s.writer.saveWith answer = (w, .ok false) → w.content = s.saved) := by
  intro s
  have consistent : s.Consistent := (Session.start_consistent path text).run calls
  have counted : s.writer.pending = s.scheduled.length := by
    simp [pending, Patch.len, consistent.pending]
  refine ⟨consistent.pending, counted, consistent.clean, fun w e failed => (commit_error failed).1,
    fun w n done => ?_, fun answer w saved => ?_⟩
  · obtain ⟨applied, emptied, applies, _, _⟩ := commit_ok done
    rw [← consistent.pending]
    exact ⟨applied, emptied, applies.trans counted⟩
  · -- a save that writes nothing leaves a clean buffer, and its history keeps the text
    have next := consistent.call (.save answer)
    rcases saveWith_cases s.writer answer with
      ⟨e, _, failed⟩ | ⟨w₁, n, _, clean, nothing⟩ | ⟨w₁, n, f, _, _, failed⟩ |
      ⟨w₁, n, _, _, wrote⟩
    · rw [failed] at saved
      cases saved
    · rw [nothing] at saved
      obtain ⟨rfl, -⟩ := Prod.mk.inj saved
      simpa [Session.call, nothing] using next.clean (by simpa [Session.call, nothing] using clean)
    · rw [failed] at saved
      cases saved
    · rw [wrote] at saved
      cases saved

end Writer

end TypedJson
