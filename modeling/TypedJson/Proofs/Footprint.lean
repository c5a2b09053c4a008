import TypedJson.Cli.Run
import TypedJson.Files.Store
import TypedJson.Proofs.RetypeBuffer
/-!
# What a run does to the file system

A run reaches the file system only through the calls of `FileSystem`, and it is proved here for
every file system that behaves as the standard library and the temporary-file crate document
those calls (`LawfulFileSystem`): every call but the replacement of a file only reads, a
replacement that fails changes nothing, and one that succeeds leaves the path reading as the
new bytes with the permission bits it was given. These are premises about the system, not
facts about the command; the directory tree held in memory meets them (`Store.lawful`).

Reading the settings, the schema and where the declaration file is leave the state as it was;
so does a retype that fails, a dry run and a retype that changes no text, since the only write
is the save of a dirty buffer. That save is one replacement of the file by the retyped text,
with the permission bits the file had when it was read. On the tree held in memory it changes
that file alone.

The command therefore exits with status 1 exactly when, its command line read, a run stops on
an error, and then the state is as it was.
-/
namespace TypedJson.Files

variable {σ α β : Type}

def ReadsOnly (x : StateM σ α) : Prop := ∀ s, (x.run s).2 = s

theorem readsOnly_pure (a : α) : ReadsOnly (pure a : StateM σ α) := fun _ => rfl

theorem run_bind_of_readsOnly {x : StateM σ α} (reads : ReadsOnly x) (f : α → StateM σ β)
    (s : σ) : (x >>= f).run s = (f (x.run s).1).run s := by
  show (f (x.run s).1).run (x.run s).2 = _
  rw [reads s]

theorem readsOnly_bind {x : StateM σ α} {f : α → StateM σ β} (first : ReadsOnly x)
    (next : ∀ a, ReadsOnly (f a)) : ReadsOnly (x >>= f) := fun s => by
  rw [run_bind_of_readsOnly first]
  exact next _ s

theorem run_bind_of_run {x : StateM σ α} {a : α} {s : σ} (ran : x.run s = (a, s))
    (f : α → StateM σ β) : (x >>= f).run s = (f a).run s := by
  show (f (x.run s).1).run (x.run s).2 = _
  rw [ran]

/-- What a run relies on of a file system whose state is `σ`, as the standard library and the
temporary-file crate document the calls it makes. Asking for the working directory, reading a
file, asking what a path names and reading permission bits change nothing. A replacement writes
the new file aside and renames it over the old one in one step: when it fails nothing changed,
and when it succeeds the path reads as the new bytes, with the permission bits it was given or
those of a freshly created private file. -/
structure LawfulFileSystem (σ : Type) [FileSystem (StateM σ)] : Prop where
  currentDir_reads : ReadsOnly (FileSystem.currentDir : StateM σ String)
  readBytes_reads : ∀ path, ReadsOnly (FileSystem.readBytes path : StateM σ (Except Fault ByteArray))
  kindOf_reads : ∀ path, ReadsOnly (FileSystem.kindOf path : StateM σ (Option EntryKind))
  permissionsOf_reads : ∀ path, ReadsOnly (FileSystem.permissionsOf path : StateM σ (Option Nat))
  replaceFile_failed : ∀ path bytes mode (s : σ) f,
    ((FileSystem.replaceFile path bytes mode : StateM σ (Except Fault Unit)).run s).1 = .error f →
      ((FileSystem.replaceFile path bytes mode : StateM σ (Except Fault Unit)).run s).2 = s
  replaceFile_reads : ∀ path bytes mode (s s' : σ),
    (FileSystem.replaceFile path bytes mode : StateM σ (Except Fault Unit)).run s = (.ok (), s') →
      ((FileSystem.readBytes path : StateM σ (Except Fault ByteArray)).run s').1 = .ok bytes ∧
      ((FileSystem.permissionsOf path : StateM σ (Option Nat)).run s').1 =
        some (mode.getD privateMode)

section Lawful

variable [FileSystem (StateM σ)]

theorem readText_readsOnly (lawful : LawfulFileSystem σ) (path : String) :
    ReadsOnly (readText path : StateM σ _) := by
  unfold readText
  refine readsOnly_bind (lawful.readBytes_reads path) fun read => ?_
  split
  · exact readsOnly_pure _
  · split <;> exact readsOnly_pure _

theorem isFile_readsOnly (lawful : LawfulFileSystem σ) (path : String) :
    ReadsOnly (isFile path : StateM σ Bool) :=
  readsOnly_bind (lawful.kindOf_reads path) fun _ => readsOnly_pure _

theorem isDirectory_readsOnly (lawful : LawfulFileSystem σ) (path : String) :
    ReadsOnly (isDirectory path : StateM σ Bool) :=
  readsOnly_bind (lawful.kindOf_reads path) fun _ => readsOnly_pure _

def replacement (s : σ) (path out : String) : Except Fault Unit × σ :=
  (FileSystem.replaceFile path out.toUTF8 ((FileSystem.permissionsOf path : StateM σ _).run s).1 :
    StateM σ _).run s

/-- How a retype of the file at `path`, which read `text` from the state `s` and retyped it to
`out`, leaves the state as `s'`: it wrote exactly when the run was not dry and the text changed.
Unless it wrote the state is as it was. A write is the replacement of the file by the retyped
text, with the permission bits the file had, and it went through; the file then reads as the
retyped text with those bits. -/
structure Rewrote (s : σ) (path text out : String) (dryRun written : Bool) (s' : σ) : Prop where
  written_iff : written = true ↔ dryRun = false ∧ out ≠ text
  unchanged : written = false → s' = s
  replaced : written = true → replacement s path out = (.ok (), s')
  holds : written = true →
    ((FileSystem.readBytes path : StateM σ (Except Fault ByteArray)).run s').1 = .ok out.toUTF8 ∧
    ((FileSystem.permissionsOf path : StateM σ (Option Nat)).run s').1 =
      some ((((FileSystem.permissionsOf path : StateM σ (Option Nat)).run s).1).getD privateMode)

namespace Rewrote

variable {s s' : σ} {path text out : String}

theorem unwritten {dryRun : Bool} (kept : ¬(dryRun = false ∧ out ≠ text)) :
    Rewrote s path text out dryRun false s :=
  ⟨by simpa using kept, fun _ => rfl, fun wrote => (by cases wrote), fun wrote => (by cases wrote)⟩

theorem written (lawful : LawfulFileSystem σ) (changed : out ≠ text)
    (replaced : replacement s path out = (.ok (), s')) :
    Rewrote s path text out false true s' :=
  ⟨by simpa using changed, fun kept => (by cases kept), fun _ => replaced,
    fun _ => lawful.replaceFile_reads _ _ _ _ _ replaced⟩

end Rewrote

end Lawful

def Store.text? (s : Store) (path : String) : Except Fault String :=
  match s.read path with
  | .error f => .error f
  | .ok bytes =>
    match String.fromUTF8? bytes with
    | some text => .ok text
    | none => .error .invalidText

theorem readBytes_run (path : String) (s : Store) :
    (FileSystem.readBytes path : StateM Store _).run s = pure (s.read path, s) := rfl

theorem readText_run (path : String) (s : Store) :
    (readText path : StateM Store _).run s = (s.text? path, s) := by
  simp only [readText, StateT.run_bind, readBytes_run, pure_bind, Store.text?]
  cases s.read path with
  | error f => rfl
  | ok bytes =>
    show (match String.fromUTF8? bytes with
      | some text => pure (.ok text)
      | none => pure (.error .invalidText) : StateM Store (Except Fault String)).run s = _
    cases decoded : String.fromUTF8? bytes <;> simp [decoded] <;> rfl

theorem permissionsOf_run (path : String) (s : Store) :
    (FileSystem.permissionsOf path : StateM Store _).run s = (s.mode? path, s) := rfl

theorem replaceFile_run (path : String) (bytes : ByteArray) (mode : Option Nat) (s : Store) :
    (FileSystem.replaceFile path bytes mode : StateM Store _).run s =
      match s.replace path bytes mode with
      | .ok s' => (.ok (), s')
      | .error f => (.error f, s) := by
  show (match s.replace path bytes mode with
    | .ok s' => (set s' >>= fun _ => pure (.ok ()) : StateM Store (Except Fault Unit))
    | .error e => pure (.error e)).run s = _
  cases s.replace path bytes mode <;> rfl

namespace Store

variable {s : Store} {key : List String} {e : Entry}

theorem entry?_put_self : Store.entry? (s.put key e) key = some e := by
  have gone : (s.entries.filter (·.1 != key)).find? (·.1 == key) = none := by
    rw [List.find?_eq_none]
    intro x member
    simp at member ⊢
    exact member.2
  simp [ entry?, put, List.find?_append, gone]

theorem entry?_put_ne {k : List String} (other : k ≠ key) :
    Store.entry? (s.put key e) k = s.entry? k := by
  have kept : (s.entries.filter (·.1 != key)).find? (·.1 == k) = s.entries.find? (·.1 == k) := by
    rw [List.find?_filter]
    congr 1
    funext x
    by_cases same : x.1 = k
    · simp [same, other]
    · simp [same]
  have last : [(key, e)].find? (·.1 == k) = none := by
    simp [Ne.symm other]
  simp only [ entry?, put, List.find?_append, kept, last, Option.or_none]

theorem kindAt_put_ne {k : List String} (other : k ≠ key) :
    (s.put key e).kindAt k = s.kindAt k := by
  simp only [kindAt, entry?_put_ne other]

theorem kindAbs_put_of_directory (notDir : s.kindAt key ≠ some .directory) {abs : List String}
    (dir : s.kindAbs abs = some .directory) : (s.put key e).kindAbs abs = some .directory := by
  unfold kindAbs at dir ⊢
  cases inside : inTree? abs with
  | none => simpa [inside] using dir
  | some k =>
    rw [inside] at dir
    have other : k ≠ key := by
      rintro rfl
      exact notDir dir
    dsimp only
    rw [kindAt_put_ne other]
    exact dir

theorem follow_put (notDir : s.kindAt key ≠ some .directory) {cur abs : List String}
    {cs : List String} (followed : s.follow cur cs = .ok abs) :
    (s.put key e).follow cur cs = .ok abs := by
  induction cs generalizing cur with
  | nil => exact followed
  | cons c rest ih =>
    cases rest with
    | nil => exact followed
    | cons c' rest' =>
      unfold follow at followed ⊢
      dsimp only at followed ⊢
      split at followed
      · next dir =>
        rw [kindAbs_put_of_directory notDir dir]
        exact ih followed
      · cases followed
      · cases followed

theorem locate_put (notDir : s.kindAt key ≠ some .directory) {path : String}
    {found : List String × Bool} (located : s.locate path = .ok found) :
    (s.put key e).locate path = .ok found := by
  unfold locate at located ⊢
  split at located
  · cases located
  · next nonEmpty =>
    rw [if_neg nonEmpty]
    dsimp only at located ⊢
    split at located
    · cases located
    · next abs followed =>
      rw [follow_put notDir followed]
      exact located

theorem replace_reads {path : String} {bytes : ByteArray} {mode : Option Nat} {s' : Store}
    (replaced : s.replace path bytes mode = .ok s') :
    s'.read path = .ok bytes ∧ s'.mode? path = some (mode.getD privateMode) := by
  unfold replace at replaced
  split at replaced
  · cases replaced
  · next abs dirOnly located =>
    split at replaced
    · cases replaced
    · cases replaced
    · next key inside notDirAbs =>
      cases dirOnly
      · cases replaced
        -- the key held no directory, so it is not the root and the path still leads there
        have notDir : s.kindAt key ≠ some .directory := by
          intro dir
          exact notDirAbs (by simp [kindAbs, inside, dir])
        have nonRoot : key ≠ [] := by
          rintro rfl
          exact notDir rfl
        have relocated := locate_put (e := .file bytes (mode.getD privateMode)) notDir located
        have kind : (s.put key (.file bytes (mode.getD privateMode))).kindAbs abs = some .file := by
          simp [kindAbs, inside, kindAt_put_self _ _ _ nonRoot, Entry.kind]
        have entry : (s.put key (.file bytes (mode.getD privateMode))).entryAt? abs =
            some (.file bytes (mode.getD privateMode)) := by
          simp [entryAt?, inside, entry?_put_self]
        constructor
        · simp [read, relocated, kind, entry]
        · simp [mode?, relocated, entry]
      · cases replaced

theorem lawful : LawfulFileSystem Store where
  currentDir_reads _ := rfl
  readBytes_reads _ _ := rfl
  kindOf_reads _ _ := rfl
  permissionsOf_reads _ _ := rfl
  replaceFile_failed path bytes mode s f failed := by
    rw [replaceFile_run] at failed ⊢
    cases replaced : s.replace path bytes mode with
    | error f' => rfl
    | ok s' => simp [replaced] at failed
  replaceFile_reads path bytes mode s s' ran := by
    rw [replaceFile_run] at ran
    cases replaced : s.replace path bytes mode with
    | error f =>
      simp only [replaced] at ran
      cases (Prod.mk.inj ran).1
    | ok s'' =>
      simp only [replaced] at ran
      obtain ⟨-, rfl⟩ := ran
      exact replace_reads replaced

theorem read_ok {path : String} {bytes : ByteArray} (read : s.read path = .ok bytes) :
    ∃ abs key mode, s.locate path = .ok (abs, false) ∧ Store.inTree? abs = some key ∧
      s.kindAbs abs ≠ some .directory ∧ s.entry? key = some (.file bytes mode) := by
  unfold Store.read at read
  split at read
  · cases read
  · next abs dirOnly located =>
    split at read
    · cases read
    · next stored mode found notDir =>
      cases dirOnly
      · cases read
        obtain ⟨key, inside, entry⟩ := Option.bind_eq_some_iff.mp found
        exact ⟨abs, key, mode, located, inside, notDir, entry⟩
      · cases read
    · cases read

theorem replace_of_read {path : String} {bytes : ByteArray} (read : s.read path = .ok bytes)
    (new : ByteArray) :
    ∃ abs key mode, s.locate path = .ok (abs, false) ∧ Store.inTree? abs = some key ∧
      s.entry? key = some (.file bytes mode) ∧
      s.replace path new (s.mode? path) = .ok (s.put key (.file new mode)) := by
  obtain ⟨abs, key, mode, located, inside, notDir, entry⟩ := read_ok read
  have kept : s.mode? path = some mode := by
    simp [Store.mode?, located, Store.entryAt?, inside, entry]
  refine ⟨abs, key, mode, located, inside, entry, ?_⟩
  rw [kept]
  unfold Store.replace
  simp only [located, inside]
  cases kind : s.kindAbs abs with
  | none => rfl
  | some k =>
    cases k with
    | file => rfl
    | directory => exact absurd kind notDir

theorem read_of_text {path text : String} (read : s.text? path = .ok text) :
    ∃ bytes, s.read path = .ok bytes ∧ String.fromUTF8? bytes = some text := by
  unfold Store.text? at read
  split at read
  · cases read
  · next bytes found =>
    split at read
    · next decoded =>
      cases read
      exact ⟨bytes, found, decoded⟩
    · cases read

/-- How a retype of the declaration file at `path`, which read `text` from the tree `s` and
retyped it to `out`, leaves the tree as `s'`: it wrote exactly when the run was not dry and the
text changed. Unless it wrote the tree is as it was; a write put the retyped text where the tree
held the file, with the file's permission bits, and changed nothing else. -/
structure Rewrote (s : Store) (path text out : String) (dryRun written : Bool)
    (s' : Store) : Prop where
  written_iff : written = true ↔ dryRun = false ∧ out ≠ text
  unchanged : written = false → s' = s
  replaced : written = true → ∃ abs key bytes mode, s.locate path = .ok (abs, false) ∧
    Store.inTree? abs = some key ∧ s.entry? key = some (.file bytes mode) ∧
    String.fromUTF8? bytes = some text ∧ s' = s.put key (.file out.toUTF8 mode)

end Store

theorem Rewrote.store {s s' : Store} {path text out : String} {dryRun written : Bool}
    (read : s.text? path = .ok text) (rewrote : Rewrote s path text out dryRun written s') :
    s.Rewrote path text out dryRun written s' := by
  refine ⟨rewrote.written_iff, rewrote.unchanged, fun wrote => ?_⟩
  obtain ⟨bytes, found, decoded⟩ := Store.read_of_text read
  obtain ⟨abs, key, mode, located, inside, entry, replaced⟩ :=
    Store.replace_of_read found out.toUTF8
  have ran := rewrote.replaced wrote
  simp only [replacement, permissionsOf_run, replaceFile_run, replaced] at ran
  exact ⟨abs, key, bytes, mode, located, inside, entry, decoded, (Prod.mk.inj ran).2.symm⟩

end TypedJson.Files

namespace TypedJson

open Files

theorem visitAlias_written {c : Catalog} {source : String} {a : TypeAlias} {patch p : Patch}
    {report r : Report} (visited : visitAlias c source a (patch, report) = (p, .ok r)) :
    r.written = report.written := by
  unfold visitAlias at visited
  dsimp only at visited
  split at visited
  · cases visited
    rfl
  · split at visited
    · cases visited
      rfl
    · cases visited

theorem visitAll_written {c : Catalog} {source : String} (aliases : List TypeAlias)
    {patch p : Patch} {report r : Report}
    (visited : visitAll c source aliases (patch, report) = (p, .ok r)) :
    r.written = report.written := by
  induction aliases generalizing patch report with
  | nil =>
    cases visited
    rfl
  | cons a rest ih =>
    unfold visitAll at visited
    split at visited
    · next patch' report' first => exact (ih visited).trans (visitAlias_written first)
    · cases visited

theorem retypeSource_written {parseModule : String → Syntax.Tree} {c : Catalog}
    {source out : String} {report : Report}
    (retyped : retypeSource parseModule source c = .ok (out, report)) : report.written = false := by
  have passed := (retypeSource_ok retyped).1
  unfold retypeModule at passed
  dsimp only at passed
  split at passed
  · cases passed
  · next patch report' visited =>
    split at passed
    · cases passed
    · cases passed
      exact visitAll_written _ visited

theorem Report.written_false {report : Report} (clean : report.written = false) :
    { report with written := false } = report := by
  cases report
  simp_all

variable {σ : Type} [FileSystem (StateM σ)]

namespace Writer

theorem load_run (lawful : LawfulFileSystem σ) (path : String) (s : σ) :
    (load path : StateM σ _).run s =
      (match ((readText path : StateM σ _).run s).1 with
        | .error f => .error (.io path f.message)
        | .ok text => .ok (ofSource path text), s) := by
  unfold load
  rw [run_bind_of_readsOnly (readText_readsOnly lawful path)]
  cases ((readText path : StateM σ _).run s).1 <;> rfl

theorem write_run (lawful : LawfulFileSystem σ) (w : Writer) (s : σ) :
    (w.write : StateM σ _).run s = replacement s w.path w.content := by
  unfold write
  rw [run_bind_of_readsOnly (lawful.permissionsOf_reads w.path)]
  rfl

theorem save_run (lawful : LawfulFileSystem σ) {w : Writer} (settled : w.patch = {}) (s : σ) :
    (w.save : StateM σ _).run s =
      if w.dirty then
        (match (replacement s w.path w.content).1 with
          | .ok () => ({ w with dirty := false }, .ok true)
          | .error f => (w, .error (.io w.path f.message)),
          (replacement s w.path w.content).2)
      else ((w, .ok false), s) := by
  have committed : w.commit = (w, .ok 0) := by
    simp [commit, settled, Patch.isEmpty]
  rw [save_eq, committed]
  cases dirty : w.dirty
  · simp [saveWith, committed, dirty]
    rfl
  · simp only [Except.isOk, Except.toBool, Bool.and_self, if_true, StateT.run_map,
      write_run lawful]
    rcases replacement s w.path w.content with ⟨answer, s'⟩
    cases answer <;> simp [saveWith, committed, dirty] <;> rfl

end Writer

theorem generate_run (lawful : LawfulFileSystem σ) (parseModule : String → Syntax.Tree)
    (dm : Datamodel) (path : String) (config : Config) (dryRun : Bool) (s : σ) :
    (generate parseModule dm path config dryRun : StateM σ _).run s =
      match Catalog.build dm config with
      | .error e => (.error e, s)
      | .ok catalog =>
        match ((readText path : StateM σ _).run s).1 with
        | .error f => (.error (.io path f.message), s)
        | .ok text =>
          match retypeSource parseModule text catalog with
          | .error e => (.error e, s)
          | .ok (out, report) =>
            if dryRun then (.ok report, s)
            else if out = text then (.ok { report with written := false }, s)
            else
              (match (replacement s path out).1 with
                | .ok () => .ok { report with written := true }
                | .error f => .error (.io path f.message),
                (replacement s path out).2) := by
  unfold generate
  cases Catalog.build dm config with
  | error e => rfl
  | ok catalog =>
    dsimp only
    rw [run_bind_of_run (Writer.load_run lawful path s)]
    cases ((readText path : StateM σ _).run s).1 with
    | error f => rfl
    | ok text =>
      dsimp only
      obtain ⟨result, writer⟩ := retypeWriter_ofSource parseModule path text catalog
      cases retyped : retypeSource parseModule text catalog with
      | error e =>
        rw [retyped] at result
        rw [show retypeWriter parseModule (Writer.ofSource path text) catalog = (_, .error e) from
          Prod.ext rfl result]
        rfl
      | ok done =>
        obtain ⟨out, report⟩ := done
        rw [retyped] at result
        rw [show retypeWriter parseModule (Writer.ofSource path text) catalog =
            (⟨path, out, {}, out != text⟩, .ok report) from
          Prod.ext (writer out report retyped) result]
        dsimp only
        cases dryRun
        · simp only [Bool.false_eq_true, if_false]
          rw [StateT.run_bind, Writer.save_run lawful rfl]
          by_cases same : out = text
          · simp [same]
            rfl
          · simp only [same, bne_iff_ne, ne_eq, not_false_eq_true, if_true, if_false]
            rcases replacement s path out with ⟨answer, s'⟩
            cases answer <;> rfl
        · rfl

theorem generate_footprint (lawful : LawfulFileSystem σ) (parseModule : String → Syntax.Tree)
    (dm : Datamodel) (path : String) (config : Config) (dryRun : Bool) (s : σ) :
    (∀ e, ((generate parseModule dm path config dryRun : StateM σ _).run s).1 = .error e →
      ((generate parseModule dm path config dryRun : StateM σ _).run s).2 = s) ∧
    ∀ report, ((generate parseModule dm path config dryRun : StateM σ _).run s).1 = .ok report →
      ∃ catalog text out, Catalog.build dm config = .ok catalog ∧
        ((readText path : StateM σ _).run s).1 = .ok text ∧
        retypeSource parseModule text catalog = .ok (out, { report with written := false }) ∧
        Rewrote s path text out dryRun report.written
          ((generate parseModule dm path config dryRun : StateM σ _).run s).2 := by
  rw [generate_run lawful]
  cases Catalog.build dm config with
  | error e => exact ⟨fun _ _ => rfl, fun report failed => by cases failed⟩
  | ok catalog =>
    dsimp only
    cases read : ((readText path : StateM σ _).run s).1 with
    | error f => exact ⟨fun _ _ => rfl, fun report failed => by cases failed⟩
    | ok text =>
      dsimp only
      cases retyped : retypeSource parseModule text catalog with
      | error e => exact ⟨fun _ _ => rfl, fun report failed => by cases failed⟩
      | ok done =>
        obtain ⟨out, report⟩ := done
        have clean := Report.written_false (retypeSource_written retyped)
        dsimp only
        -- a dry run and an unchanged text keep the report as the pass made it
        by_cases kept : dryRun = false ∧ out ≠ text
        · obtain ⟨wet, changed⟩ := kept
          subst wet
          simp only [Bool.false_eq_true, if_false, changed]
          rcases wrote : replacement s path out with ⟨answer, s'⟩
          cases answer with
          | error f =>
            -- a replacement that fails leaves the state as it was
            have stays : (replacement s path out).2 = s :=
              lawful.replaceFile_failed _ _ _ s f (congrArg Prod.fst wrote)
            rw [wrote] at stays
            exact ⟨fun e _ => stays, fun report' failed => by cases failed⟩
          | ok u =>
            refine ⟨fun e failed => (by cases failed), fun report' done => ?_⟩
            cases done
            exact ⟨catalog, text, out, rfl, rfl, by rw [retyped, clean],
              .written lawful changed wrote⟩
        · have unwritten : Rewrote s path text out dryRun false s := .unwritten kept
          rw [← retypeSource_written retyped] at unwritten
          cases dryRun
          · have same : out = text := by simpa using kept
            simp only [Bool.false_eq_true, if_false, if_pos same, clean]
            refine ⟨fun e failed => (by cases failed), fun report' done => ?_⟩
            cases done
            exact ⟨catalog, text, out, rfl, rfl, by rw [retyped, clean], unwritten⟩
          · simp only [if_true]
            refine ⟨fun e failed => (by cases failed), fun report' done => ?_⟩
            cases done
            exact ⟨catalog, text, out, rfl, rfl, by rw [retyped, clean], unwritten⟩

theorem generate_footprint_store (parseModule : String → Syntax.Tree) (dm : Datamodel)
    (path : String) (config : Config) (dryRun : Bool) (s : Store) :
    (∀ e, ((generate parseModule dm path config dryRun : StateM Store _).run s).1 = .error e →
      ((generate parseModule dm path config dryRun : StateM Store _).run s).2 = s) ∧
    ∀ report, ((generate parseModule dm path config dryRun : StateM Store _).run s).1 = .ok report →
      ∃ catalog text out, Catalog.build dm config = .ok catalog ∧ s.text? path = .ok text ∧
        retypeSource parseModule text catalog = .ok (out, { report with written := false }) ∧
        s.Rewrote path text out dryRun report.written
          ((generate parseModule dm path config dryRun : StateM Store _).run s).2 := by
  obtain ⟨failedStays, succeeded⟩ :=
    generate_footprint Store.lawful parseModule dm path config dryRun s
  refine ⟨failedStays, fun report done => ?_⟩
  obtain ⟨catalog, text, out, built, read, retyped, rewrote⟩ := succeeded report done
  rw [readText_run] at read
  exact ⟨catalog, text, out, built, read, retyped, rewrote.store read⟩

namespace Config

theorem loadFile_readsOnly (lawful : LawfulFileSystem σ) (path : String) :
    ReadsOnly (loadFile path : StateM σ _) := by
  unfold loadFile
  refine readsOnly_bind (readText_readsOnly lawful path) fun read => ?_
  split
  · exact readsOnly_pure _
  · split <;> exact readsOnly_pure _

theorem load_readsOnly (lawful : LawfulFileSystem σ) (root : String) :
    ReadsOnly (load root : StateM σ _) := by
  unfold load
  refine readsOnly_bind (isFile_readsOnly lawful _) fun found => ?_
  split
  · exact loadFile_readsOnly lawful _
  · exact readsOnly_pure _

theorem declarationsPath_readsOnly (lawful : LawfulFileSystem σ) (config : Config)
    (explicit : Option String) : ReadsOnly (config.declarationsPath explicit : StateM σ _) := by
  unfold declarationsPath
  split
  · exact readsOnly_pure _
  · refine readsOnly_bind (isDirectory_readsOnly lawful _) fun directory => ?_
    split
    · exact readsOnly_pure _
    · refine readsOnly_bind (isFile_readsOnly lawful _) fun found => ?_
      split <;> exact readsOnly_pure _

end Config

namespace Cli

theorem settings_readsOnly (lawful : LawfulFileSystem σ) (opts : Options) :
    ReadsOnly (settings opts : StateM σ _) := by
  unfold settings
  dsimp only
  split
  · refine readsOnly_bind (Config.loadFile_readsOnly lawful _) fun loaded => ?_
    split <;> exact readsOnly_pure _
  · refine readsOnly_bind lawful.currentDir_reads fun root =>
      readsOnly_bind (Config.load_readsOnly lawful root) fun loaded => ?_
    split <;> exact readsOnly_pure _

theorem readSchema_readsOnly (lawful : LawfulFileSystem σ) (path : String) :
    ReadsOnly (readSchema path : StateM σ _) := by
  unfold readSchema
  refine readsOnly_bind (readText_readsOnly lawful path) fun read => ?_
  split
  · exact readsOnly_pure _
  · split <;> exact readsOnly_pure _

theorem execute_run (lawful : LawfulFileSystem σ) (parseModule : String → Syntax.Tree)
    (opts : Options) (s : σ) :
    (execute parseModule opts : StateM σ _).run s =
      match ((settings opts : StateM σ _).run s).1 with
      | .error e => (.error e, s)
      | .ok config =>
        match ((readSchema opts.schema : StateM σ _).run s).1 with
        | .error e => (.error e, s)
        | .ok dm =>
          match ((config.declarationsPath opts.declarations : StateM σ _).run s).1 with
          | none => (.error .noDeclarations, s)
          | some path =>
            match (generate parseModule dm path config opts.dryRun : StateM σ _).run s with
            | (.error e, s') => (.error (.retype path e), s')
            | (.ok r, s') => (.ok (reportOutcome opts path r), s') := by
  unfold execute
  rw [run_bind_of_readsOnly (settings_readsOnly lawful opts)]
  cases ((settings opts : StateM σ _).run s).1 with
  | error e => rfl
  | ok config =>
    dsimp only
    rw [run_bind_of_readsOnly (readSchema_readsOnly lawful opts.schema)]
    cases ((readSchema opts.schema : StateM σ _).run s).1 with
    | error e => rfl
    | ok dm =>
      dsimp only
      rw [run_bind_of_readsOnly (Config.declarationsPath_readsOnly lawful config opts.declarations)]
      cases ((config.declarationsPath opts.declarations : StateM σ _).run s).1 with
      | none => rfl
      | some path =>
        dsimp only
        rw [StateT.run_bind]
        rcases (generate parseModule dm path config opts.dryRun : StateM σ _).run s with ⟨r, s'⟩
        cases r <;> rfl

theorem reportOutcome_exit (opts : Options) (path : String) (r : Report) :
    (reportOutcome opts path r).exit = 0 := by
  unfold reportOutcome
  split <;> rfl

theorem execute_footprint (lawful : LawfulFileSystem σ) (parseModule : String → Syntax.Tree)
    (opts : Options) (s : σ) :
    (∀ e, ((execute parseModule opts : StateM σ _).run s).1 = .error e →
      ((execute parseModule opts : StateM σ _).run s).2 = s) ∧
    (∀ out, ((execute parseModule opts : StateM σ _).run s).1 = .ok out → out.exit = 0) ∧
    (((execute parseModule opts : StateM σ _).run s).2 ≠ s →
      ∃ config dm path report, ((settings opts : StateM σ _).run s).1 = .ok config ∧
        ((readSchema opts.schema : StateM σ _).run s).1 = .ok dm ∧
        ((config.declarationsPath opts.declarations : StateM σ _).run s).1 = some path ∧
        (generate parseModule dm path config opts.dryRun : StateM σ _).run s =
          (.ok report, ((execute parseModule opts : StateM σ _).run s).2) ∧
        report.written = true) := by
  rw [execute_run lawful]
  cases configured : ((settings opts : StateM σ _).run s).1 with
  | error e => exact ⟨fun _ _ => rfl, fun _ failed => (by cases failed), fun moved => absurd rfl moved⟩
  | ok config =>
    dsimp only
    cases read : ((readSchema opts.schema : StateM σ _).run s).1 with
    | error e =>
      exact ⟨fun _ _ => rfl, fun _ failed => (by cases failed), fun moved => absurd rfl moved⟩
    | ok dm =>
      dsimp only
      cases found : ((config.declarationsPath opts.declarations : StateM σ _).run s).1 with
      | none =>
        exact ⟨fun _ _ => rfl, fun _ failed => (by cases failed), fun moved => absurd rfl moved⟩
      | some path =>
        dsimp only
        obtain ⟨failedStays, succeeded⟩ :=
          generate_footprint lawful parseModule dm path config opts.dryRun s
        rcases retyped : (generate parseModule dm path config opts.dryRun : StateM σ _).run s with
          ⟨r, s'⟩
        rw [retyped] at failedStays succeeded
        cases r with
        | error e =>
          exact ⟨fun _ _ => failedStays e rfl, fun _ failed => (by cases failed),
            fun moved => absurd (failedStays e rfl) moved⟩
        | ok report =>
          refine ⟨fun _ failed => (by cases failed), fun out done => ?_, fun moved => ?_⟩
          · cases done
            exact reportOutcome_exit opts path report
          · -- a retype that did not write left the state as it was
            obtain ⟨_, _, _, _, _, _, rewrote⟩ := succeeded report rfl
            cases wrote : report.written with
            | false => exact absurd (rewrote.unchanged wrote) moved
            | true => exact ⟨config, dm, path, report, rfl, rfl, found, retyped, wrote⟩

theorem run_footprint (lawful : LawfulFileSystem σ) (parseModule : String → Syntax.Tree)
    (args : List String) (s : σ) :
    (((run parseModule args : StateM σ _).run s).1.exit = 1 ↔
      ∃ opts e, parse args = .ok opts ∧
        ((execute parseModule opts : StateM σ _).run s).1 = .error e) ∧
    (((run parseModule args : StateM σ _).run s).1.exit = 1 →
      ((run parseModule args : StateM σ _).run s).2 = s) ∧
    (((run parseModule args : StateM σ _).run s).2 ≠ s →
      ∃ opts config dm path report, parse args = .ok opts ∧
        ((settings opts : StateM σ _).run s).1 = .ok config ∧
        ((readSchema opts.schema : StateM σ _).run s).1 = .ok dm ∧
        ((config.declarationsPath opts.declarations : StateM σ _).run s).1 = some path ∧
        (generate parseModule dm path config opts.dryRun : StateM σ _).run s =
          (.ok report, ((run parseModule args : StateM σ _).run s).2) ∧
        report.written = true) := by
  unfold run
  cases parsed : parse args with
  | error stop =>
    -- help and version exit with 0, a wrong command line with 2, and none reads the state
    cases stop <;>
      exact ⟨⟨fun one => (by cases one), fun ⟨_, _, never, _⟩ => (by cases never)⟩,
        fun _ => rfl, fun moved => absurd rfl moved⟩
  | ok opts =>
    dsimp only
    obtain ⟨failedStays, succeeded, moved⟩ := execute_footprint lawful parseModule opts s
    rw [StateT.run_bind]
    rcases executed : (execute parseModule opts : StateM σ _).run s with ⟨r, s'⟩
    rw [executed] at failedStays succeeded moved
    cases r with
    | ok out =>
      have zero : out.exit = 0 := succeeded out rfl
      refine ⟨⟨fun one => ?_, fun ⟨_, _, same, failed⟩ => ?_⟩, fun one => ?_, fun changed => ?_⟩
      · change out.exit = 1 at one
        omega
      · cases same
        rw [executed] at failed
        cases failed
      · change out.exit = 1 at one
        omega
      · obtain ⟨config, dm, path, report, configured, read, found, retyped, wrote⟩ := moved changed
        exact ⟨opts, config, dm, path, report, rfl, configured, read, found, retyped, wrote⟩
    | error e =>
      have stays : s' = s := failedStays e rfl
      refine ⟨⟨fun _ => ⟨opts, e, rfl, by rw [executed]⟩, fun _ => rfl⟩, fun _ => stays,
        fun changed => absurd stays changed⟩

end Cli

/-- On every file system that behaves as documented, with any parser: a retype of a declaration
file changes the state only when it succeeds and reports the file written, which it does
exactly when the run is not dry and the text changed; that change is one replacement of the file
by the retyped text with the permission bits it had, after which the file reads as that text
with those bits; on every error the state is as it was. The command exits with status 1 exactly
when a run with a well-formed command line stops on an error, and changes the state only
through such a retype. On the directory tree held in memory the file alone changes. -/
theorem retype_footprint :
    (∀ {σ : Type} [FileSystem (StateM σ)], LawfulFileSystem σ →
      ∀ (parseModule : String → Syntax.Tree) (dm : Datamodel) (path : String) (config : Config)
        (dryRun : Bool) (s : σ),
        (∀ e, ((generate parseModule dm path config dryRun : StateM σ _).run s).1 = .error e →
          ((generate parseModule dm path config dryRun : StateM σ _).run s).2 = s) ∧
        ∀ report, ((generate parseModule dm path config dryRun : StateM σ _).run s).1 = .ok report →
          ∃ catalog text out, Catalog.build dm config = .ok catalog ∧
            ((readText path : StateM σ _).run s).1 = .ok text ∧
            retypeSource parseModule text catalog = .ok (out, { report with written := false }) ∧
            Rewrote s path text out dryRun report.written
              ((generate parseModule dm path config dryRun : StateM σ _).run s).2) ∧
    (∀ {σ : Type} [FileSystem (StateM σ)], LawfulFileSystem σ →
      ∀ (parseModule : String → Syntax.Tree) (args : List String) (s : σ),
        (((Cli.run parseModule args : StateM σ _).run s).1.exit = 1 ↔
          ∃ opts e, Cli.parse args = .ok opts ∧
            ((Cli.execute parseModule opts : StateM σ _).run s).1 = .error e) ∧
        (((Cli.run parseModule args : StateM σ _).run s).1.exit = 1 →
          ((Cli.run parseModule args : StateM σ _).run s).2 = s) ∧
        (((Cli.run parseModule args : StateM σ _).run s).2 ≠ s →
          ∃ opts config dm path report, Cli.parse args = .ok opts ∧
            ((Cli.settings opts : StateM σ _).run s).1 = .ok config ∧
            ((Cli.readSchema opts.schema : StateM σ _).run s).1 = .ok dm ∧
            ((config.declarationsPath opts.declarations : StateM σ _).run s).1 = some path ∧
            (generate parseModule dm path config opts.dryRun : StateM σ _).run s =
              (.ok report, ((Cli.run parseModule args : StateM σ _).run s).2) ∧
            report.written = true)) ∧
    (∀ (parseModule : String → Syntax.Tree) (dm : Datamodel) (path : String) (config : Config)
        (dryRun : Bool) (s : Store),
      (∀ e, ((generate parseModule dm path config dryRun : StateM Store _).run s).1 = .error e →
        ((generate parseModule dm path config dryRun : StateM Store _).run s).2 = s) ∧
      ∀ report, ((generate parseModule dm path config dryRun : StateM Store _).run s).1 = .ok report →
        ∃ catalog text out, Catalog.build dm config = .ok catalog ∧ s.text? path = .ok text ∧
          retypeSource parseModule text catalog = .ok (out, { report with written := false }) ∧
          s.Rewrote path text out dryRun report.written
            ((generate parseModule dm path config dryRun : StateM Store _).run s).2) :=
  ⟨fun lawful => generate_footprint lawful, fun lawful => Cli.run_footprint lawful,
    generate_footprint_store⟩

theorem retype_footprint_in_memory :
    LawfulFileSystem Store ∧
      (∀ e, ((generate Syntax.parse ⟨[], []⟩ "index.d.ts" {} false : StateM Store _).run {}).1 =
          .error e →
        ((generate Syntax.parse ⟨[], []⟩ "index.d.ts" {} false : StateM Store _).run {}).2 = {}) ∧
      ∀ report, ((generate Syntax.parse ⟨[], []⟩ "index.d.ts" {} false : StateM Store _).run {}).1 =
          .ok report →
        ∃ catalog text out, Catalog.build ⟨[], []⟩ {} = .ok catalog ∧
          ((readText "index.d.ts" : StateM Store _).run {}).1 = .ok text ∧
          retypeSource Syntax.parse text catalog = .ok (out, { report with written := false }) ∧
          Rewrote ({} : Store) "index.d.ts" text out false report.written
            ((generate Syntax.parse ⟨[], []⟩ "index.d.ts" {} false : StateM Store _).run {}).2 :=
  ⟨Store.lawful, retype_footprint.1 Store.lawful Syntax.parse ⟨[], []⟩ "index.d.ts" {} false {}⟩

end TypedJson
