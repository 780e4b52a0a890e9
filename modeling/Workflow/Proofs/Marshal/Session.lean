import Workflow.Marshal.Session
import Workflow.Proofs.Storage.Content

/-!
# Calls on a session

* `ofStorage_eq_ok`, `ofExcept_eq_ok`: calls on storage and on nothing as part of a session.
* `Sound`: every store has a bucket of its own, and no transfer is done that was not handed out.
* `reads_present`, `reads_remote`: what is read at the path that a download gives.
-/

namespace Workflow

open Calls

variable {α : Type} {s s' : Session} {x : α}

namespace Session

/-- What holds of every session that starts from a configuration. -/
structure Sound (s : Session) : Prop where
  stores : s.storage.stores.Sound
  done : ∀ n ∈ s.done, n < s.issued

/-- A session with other storage. -/
def withStorage (s : Session) (storage : Storage) : Session := { s with storage }

/-- **Every session starts sound.** -/
theorem Sound.start {config : StorageConfig} {files : FileSystem} {supply : Nat → FreshId}
    {storage : Storage} (h : Storage.ofConfig config files supply = .ok storage) :
    (ofStorage storage).Sound := by
  unfold Storage.ofConfig at h
  split at h
  · cases h
  · cases h
    refine ⟨.empty, ?_⟩
    intro n hn
    cases hn

end Session

namespace Marshal

theorem outcome_onStorage (report : StorageError → Failure) (action : Storage.Action α) :
    outcome (onStorage report action) s =
      match outcome action s.storage with
      | (.ok x, storage) => (.ok x, s.withStorage storage)
      | (.error e, storage) => (.error (report e), s.withStorage storage) := by
  unfold onStorage
  rw [outcome_get_bind]
  have hsame : action.run.run s.storage = outcome action s.storage := rfl
  rw [hsame]
  rcases outcome action s.storage with ⟨e | x, storage⟩
  · rfl
  · rfl

/-- **A call on storage** is a call on the storage of the session. -/
theorem onStorage_eq_ok {report : StorageError → Failure} {action : Storage.Action α} :
    outcome (onStorage report action) s = (.ok x, s') ↔
      ∃ storage, outcome action s.storage = (.ok x, storage) ∧ s' = s.withStorage storage := by
  rw [outcome_onStorage]
  rcases outcome action s.storage with ⟨e | y, storage⟩
  · simp
  · simp [eq_comm]

theorem ofStorage_eq_ok {action : Storage.Action α} :
    outcome (ofStorage action) s = (.ok x, s') ↔
      ∃ storage, outcome action s.storage = (.ok x, storage) ∧ s' = s.withStorage storage :=
  onStorage_eq_ok

theorem ofDisk_eq_ok {action : Storage.Action α} :
    outcome (ofDisk action) s = (.ok x, s') ↔
      ∃ storage, outcome action s.storage = (.ok x, storage) ∧ s' = s.withStorage storage :=
  onStorage_eq_ok

theorem outcome_ofExcept (e : Except Failure α) (s : Session) : outcome (ofExcept e) s = (e, s) := by
  cases e with
  | error f => rfl
  | ok y => rfl

theorem ofExcept_eq_ok {e : Except Failure α} :
    outcome (ofExcept e) s = (.ok x, s') ↔ e = .ok x ∧ s' = s := by
  rw [outcome_ofExcept, Prod.mk.injEq, eq_comm (a := s)]

theorem localPath_eq_ok {uri : String} {p : FilePath} :
    outcome (localPath uri) s = (.ok p, s') ↔ Uri.toLocalPath uri = .ok p ∧ s' = s := by
  unfold localPath
  rw [ofExcept_eq_ok, Outcome.mapError_eq_ok]

theorem outcome_isFile (p : FilePath) :
    outcome (isFile p) s = (.ok (s.storage.files.isFile p), s) := rfl

end Marshal

namespace FileValue

/-- A file value is read: its download gives a path where the content is. -/
def Reads (f : FileValue) (s : Session) (content : Bytes) : Prop :=
  ∃ p s', outcome f.download s = (.ok p, s') ∧ s'.storage.files.read p = .ok content

variable {f : FileValue} {content : Bytes}

/-- A file that is there is read at its path. -/
theorem reads_present (hsource : f.source = .present) :
    f.Reads s content ↔ s.storage.files.read (.ofText f.path) = .ok content := by
  unfold Reads download
  rw [hsource]
  simp only [outcome_pure, Prod.mk.injEq, Except.ok.injEq]
  constructor
  · rintro ⟨_, _, ⟨rfl, rfl⟩, hread⟩
    exact hread
  · intro hread
    exact ⟨_, _, ⟨rfl, rfl⟩, hread⟩

/-- **A file that is still to be fetched** is read when there is content at the site of its source
and its own path can be written. -/
theorem reads_remote {t : Transfer} (hsource : f.source = .remote t) (hfresh : t.number ∉ s.done) :
    f.Reads s content ↔
      (∃ site, s.storage.siteOf? t.uri = some site ∧ s.storage.contentAt? site = some content) ∧
        s.storage.files.Admits t.target := by
  -- a transfer that is not done runs now, and only its content matters below
  have hrun : ∀ s', outcome t.run s = (.ok (), s') ↔ ∃ storage,
      outcome (Storage.getData t.uri t.target) s.storage = (.ok (), storage) ∧
        s' = { s.withStorage storage with done := t.number :: s.done } := by
    intro s'
    unfold Transfer.run
    rw [outcome_get_bind, if_neg (by simpa using hfresh)]
    constructor
    · intro h
      obtain ⟨⟨⟩, s₁, hcall, h⟩ := bind_eq_ok.1 h
      obtain ⟨storage, hget, rfl⟩ := Marshal.ofStorage_eq_ok.1 hcall
      rw [outcome_modify] at h
      cases h
      exact ⟨storage, hget, rfl⟩
    · rintro ⟨storage, hget, rfl⟩
      exact bind_eq_ok.2 ⟨(), _, Marshal.ofStorage_eq_ok.2 ⟨storage, hget, rfl⟩, rfl⟩
  rw [← Storage.getData_reads]
  unfold Reads download
  rw [hsource]
  constructor
  · rintro ⟨p, s', hdone, hread⟩
    obtain ⟨⟨⟩, s₁, hdone, hend⟩ := bind_eq_ok.1 hdone
    obtain ⟨storage, hget, rfl⟩ := (hrun s₁).1 hdone
    rw [outcome_pure] at hend
    cases hend
    exact ⟨storage, hget, hread⟩
  · rintro ⟨storage, hget, hread⟩
    exact ⟨_, _, bind_eq_ok.2 ⟨(), _, (hrun _).2 ⟨storage, hget, rfl⟩, rfl⟩, hread⟩

end FileValue

end Workflow
