import Workflow.Proofs.Marshal.RoundTrip

/-!
# Content that is fetched once

A remote file value is copied and its copies are given settings of their own. All of them share one
transfer.

* `Transfer.attempt`: what one attempt at a transfer does.
* `Life`: downloads and questions on copies of a value, while storage changes under them.
* `life_fetched_once`: each download makes one attempt until one succeeds, and none after that.
-/

namespace Workflow

open Calls

/-! ## Reads of a store -/

namespace Storage

variable {s s' s'' : Storage}

/-- The reads and writes of stores are the same. -/
def SameTraffic (s s' : Storage) : Prop := s'.traffic = s.traffic

theorem SameTraffic.refl (s : Storage) : s.SameTraffic s := rfl

theorem SameTraffic.trans (h : s.SameTraffic s') (h' : s'.SameTraffic s'') : s.SameTraffic s'' :=
  Eq.trans h' h

theorem locate_traffic (uri : String) : Within SameTraffic (locate uri) := by
  unfold locate
  split
  · exact .pure .refl _
  · exact .throw .refl _

theorem bucketOf_traffic (location : RemoteLocation) : Within SameTraffic (bucketOf location) := by
  intro s
  rw [outcome_bucketOf]
  split
  · exact .refl s
  · split
    · rfl
    · exact .refl s

/-- What a read of a URI adds to the count of traffic. -/
def countRead (uri : String) (traffic : Traffic) : Traffic :=
  if Uri.isRemote uri then { traffic with gets := traffic.gets + 1 } else traffic

/-- **A read of a store** is counted once, whether it succeeds or not. -/
theorem getBytes_traffic (uri : String) (s : Storage) :
    (outcome (getBytes uri) s).2.traffic = countRead uri s.traffic := by
  have hlocal : Within SameTraffic (getLocal uri) := getLocal_within_of .refl .trans uri
  unfold getBytes countRead
  split
  · -- all but the first step of a remote read leave the count alone
    unfold getRemote
    rw [outcome_modify_bind]
    refine Within.bind (R := SameTraffic) .trans (locate_traffic uri) (fun location => ?_) _
    refine .bind .trans (bucketOf_traffic location) fun bucket => .get_bind fun s => ?_
    split
    · exact .refl s
    · exact .refl s
  · exact hlocal s

theorem getData_traffic (uri : String) (target : FilePath) (s : Storage) :
    (outcome (getData uri target) s).2.traffic = countRead uri s.traffic := by
  have hwrite : ∀ content, Within SameTraffic (do
      createParent target
      writeFile target content : Action Unit) := fun content =>
    .bind .trans (createParent_within_of .refl (fun _ _ => rfl) target) fun _ =>
      onFiles_within_of (fun _ _ => rfl) _
  have hread := getBytes_traffic uri s
  unfold getData
  rw [outcome_bind]
  rcases hend : outcome (getBytes uri) s with ⟨e | content, t⟩
  · rw [hend] at hread
    exact hread
  · rw [hend] at hread
    have hsame : (outcome (do
        createParent target
        writeFile target content : Action Unit) t).2.traffic = t.traffic := hwrite content t
    exact hsame.trans hread

end Storage

/-! ## One transfer -/

/-- One attempt at a transfer: content is brought to the path, or the error of storage is given.
Only an attempt that succeeds is noted as done. -/
def Transfer.attempt (t : Transfer) (s : Session) : Except Failure FilePath × Session :=
  match outcome (Storage.getData t.uri t.target) s.storage with
  | (.ok _, storage) => (.ok t.target, { s.withStorage storage with done := t.number :: s.done })
  | (.error e, storage) => (.error e.toFailure, s.withStorage storage)

namespace FileValue

variable {f : FileValue} {t : Transfer} {s : Session}

theorem download_pending (hsource : f.source = .remote t) (h : t.number ∉ s.done) :
    outcome f.download s = t.attempt s := by
  have hrun : outcome t.run s = outcome (do
      Marshal.ofStorage (Storage.getData t.uri t.target)
      modify fun s => { s with done := t.number :: s.done } : Marshal Unit) s := by
    unfold Transfer.run
    rw [outcome_get_bind, if_neg (by simpa using h)]
  unfold download Transfer.attempt
  rw [hsource]
  simp only
  rw [outcome_bind, hrun, outcome_bind, Marshal.ofStorage, Marshal.outcome_onStorage]
  rcases outcome (Storage.getData t.uri t.target) s.storage with ⟨e | _, storage⟩
  · rfl
  · rfl

/-- A download that is done is not made again. -/
theorem download_done (hsource : f.source = .remote t) (h : t.number ∈ s.done) :
    outcome f.download s = (.ok t.target, s) := by
  have hrun : outcome t.run s = (.ok (), s) := by
    unfold Transfer.run
    rw [outcome_get_bind, if_pos (by simpa using h)]
    rfl
  unfold download
  rw [hsource]
  simp only
  rw [outcome_bind, hrun]
  rfl

theorem isDownloaded_eq (hsource : f.source = .remote t) :
    f.isDownloaded s = decide (t.number ∈ s.done) := by
  unfold isDownloaded
  rw [hsource]
  exact List.contains_eq_mem _ _

/-! ## Copies with settings -/

/-- What can be set on a file value. -/
inductive Setting where
  | extension (value : String)
  | destination (value : Destination)
  | metadata (value : Option Dict)

/-- A copy of a file value with one thing set. -/
def set (f : FileValue) : Setting → FileValue
  | .extension value => { f with extension := value }
  | .destination value => { f with destination := value }
  | .metadata value => { f with metadata := value }

/-- A copy with several things set, one after the other. -/
def copy (f : FileValue) (settings : List Setting) : FileValue := settings.foldl set f

theorem source_set (f : FileValue) (setting : Setting) : (f.set setting).source = f.source := by
  cases setting <;> rfl

theorem source_copy (f : FileValue) (settings : List Setting) : (f.copy settings).source = f.source := by
  unfold copy
  induction settings generalizing f with
  | nil => rfl
  | cons setting settings ih => rw [List.foldl_cons, ih, source_set]

/-- The file values that programs make. -/
inductive Made : FileValue → Prop where
  | present (p : FilePath) : Made (.ofPath p)
  | unmanaged (path : String) : Made (.unmanaged path)
  | remote (t : Transfer) : Made (.ofTransfer t)
  | set {f : FileValue} (setting : Setting) : Made f → Made (f.set setting)

/-- **A value is lazy** exactly when it has a remote source. -/
theorem Made.isLazy_iff (h : f.Made) : f.isLazy = true ↔ f.remoteSource.isSome = true := by
  induction h with
  | present p => simp [isLazy, ofPath]
  | unmanaged path => simp [isLazy, FileValue.unmanaged]
  | remote t => simp [isLazy, ofTransfer]
  | set setting _ ih => cases setting <;> exact ih

/-! ## The life of a value -/

/-- A call on a copy of a value, or a change of storage by something else. -/
inductive Use where
  | download (settings : List Setting)
  | isDownloaded (settings : List Setting)
  | change (storage : Storage)

/-- What a use gives. -/
inductive Answer where
  | path (result : Except Failure FilePath)
  | truth (value : Bool)
  | nothing
deriving DecidableEq

/-- A use with its answer, and the sessions around it. -/
structure Moment where
  use : Use
  before : Session
  answer : Answer
  after : Session

/-- What comes of a use. -/
def Use.perform (f : FileValue) (s : Session) (use : Use) : Moment :=
  match use with
  | .download settings =>
    ⟨use, s, .path (outcome (f.copy settings).download s).1, (outcome (f.copy settings).download s).2⟩
  | .isDownloaded settings => ⟨use, s, .truth ((f.copy settings).isDownloaded s), s⟩
  | .change storage => ⟨use, s, .nothing, s.withStorage storage⟩

/-- What comes of uses that follow one another. -/
def life (f : FileValue) (s : Session) : List Use → List Moment
  | [] => []
  | use :: uses => use.perform f s :: life f (use.perform f s).after uses

namespace Moment

/-- A download gave a path. -/
def Fetches (m : Moment) : Prop := ∃ p, m.answer = .path (.ok p)

/-- What a moment is like, given those before it. -/
structure Follows (t : Transfer) (earlier : List Moment) (m : Moment) : Prop where
  /-- Until a download has succeeded, each makes one attempt, and that reads its store once. -/
  attempts : (∀ m' ∈ earlier, ¬ m'.Fetches) → ∀ settings, m.use = .download settings →
    m.answer = .path (t.attempt m.before).1 ∧ m.after = (t.attempt m.before).2 ∧
      m.after.storage.traffic = Storage.countRead t.uri m.before.storage.traffic
  /-- From then on all give the same path, and touch nothing. -/
  rests : (∃ m' ∈ earlier, m'.Fetches) → ∀ settings, m.use = .download settings →
    m.answer = .path (.ok t.target) ∧ m.after = m.before
  /-- A copy says whether a download has succeeded, on whichever copy. -/
  tells : ∀ settings, m.use = .isDownloaded settings →
    (m.answer = .truth true ↔ ∃ m' ∈ earlier, m'.Fetches) ∧ m.after = m.before
  /-- All copies are downloaded afterwards or none is. -/
  shares : ∀ settings, ((FileValue.ofTransfer t).copy settings).isDownloaded m.after = true ↔
    ∃ m' ∈ earlier ++ [m], m'.Fetches

end Moment

theorem attempt_eq_ok {p : FilePath} {s' : Session} (h : t.attempt s = (.ok p, s')) :
    s'.done = t.number :: s.done := by
  unfold Transfer.attempt at h
  split at h
  · cases h
    rfl
  · cases h

theorem attempt_eq_error {e : Failure} {s' : Session} (h : t.attempt s = (.error e, s')) :
    s'.done = s.done := by
  unfold Transfer.attempt at h
  split at h
  · cases h
  · cases h
    rfl

theorem attempt_traffic (t : Transfer) (s : Session) :
    (t.attempt s).2.storage.traffic = Storage.countRead t.uri s.storage.traffic := by
  have htraffic := Storage.getData_traffic t.uri t.target s.storage
  unfold Transfer.attempt
  rcases hend : outcome (Storage.getData t.uri t.target) s.storage with ⟨e | _, storage⟩
  · rw [hend] at htraffic
    exact htraffic
  · rw [hend] at htraffic
    exact htraffic

/-- What a moment of each kind does to the transfer: it is noted as done once a download gave a
path, and never twice. -/
structure Moment.Notes (t : Transfer) (m : Moment) : Prop where
  done : t.number ∈ m.after.done ↔ t.number ∈ m.before.done ∨ m.Fetches
  once : m.before.done.count t.number ≤ 1 → m.after.done.count t.number ≤ 1

theorem perform_notes (t : Transfer) (s : Session) (use : Use) :
    (use.perform (.ofTransfer t) s).Notes t := by
  cases use with
  | download settings =>
    have hsource : ((FileValue.ofTransfer t).copy settings).source = .remote t := source_copy _ _
    unfold Use.perform
    simp only
    by_cases hdone : t.number ∈ s.done
    · rw [download_done hsource hdone]
      exact ⟨by simp [hdone], id⟩
    · rw [download_pending hsource hdone]
      rcases hend : t.attempt s with ⟨e | p, s'⟩
      · have hsame := attempt_eq_error hend
        exact ⟨by simp [hsame, Moment.Fetches], by simp [hsame]⟩
      · have hnew := attempt_eq_ok hend
        refine ⟨by simp [hnew, Moment.Fetches], fun _ => ?_⟩
        simp only [hnew, List.count_cons_self, List.count_eq_zero_of_not_mem hdone]
        omega
  | isDownloaded settings => exact ⟨by simp [Use.perform, Moment.Fetches], id⟩
  | change storage => exact ⟨by simp [Use.perform, Moment.Fetches, Session.withStorage], id⟩

theorem before_perform (f : FileValue) (s : Session) (use : Use) : (use.perform f s).before = s := by
  cases use <;> rfl

/-- One use more: the transfer is done if a download has given a path by then. -/
theorem done_perform_iff {earlier : List Moment}
    (hdone : t.number ∈ s.done ↔ ∃ m ∈ earlier, m.Fetches) (use : Use) :
    t.number ∈ (use.perform (.ofTransfer t) s).after.done ↔
      ∃ m ∈ earlier ++ [use.perform (.ofTransfer t) s], m.Fetches := by
  rw [(perform_notes t s use).done, before_perform, hdone]
  simp only [List.mem_append, List.mem_singleton, or_and_right, exists_or, exists_eq_left]

/-- **One use** is as the uses before it make it. -/
theorem perform_follows {earlier : List Moment}
    (hdone : t.number ∈ s.done ↔ ∃ m ∈ earlier, m.Fetches) (use : Use) :
    (use.perform (.ofTransfer t) s).Follows t earlier where
  attempts := by
    rintro hnone settings huse
    have hpending : t.number ∉ s.done := by
      rw [hdone]
      rintro ⟨m, hm, hfetches⟩
      exact hnone m hm hfetches
    cases use with
    | download settings =>
      have hcall := download_pending (source_copy (.ofTransfer t) settings) hpending
      unfold Use.perform
      simp only [hcall]
      exact ⟨trivial, trivial, attempt_traffic t s⟩
    | isDownloaded settings => cases huse
    | change storage => cases huse
  rests := by
    rintro hfetched settings huse
    cases use with
    | download settings =>
      have hcall := download_done (source_copy (.ofTransfer t) settings) (hdone.2 hfetched)
      unfold Use.perform
      simp only [hcall]
      exact ⟨trivial, trivial⟩
    | isDownloaded settings => cases huse
    | change storage => cases huse
  tells := by
    rintro settings huse
    cases use with
    | download settings => cases huse
    | isDownloaded settings =>
      unfold Use.perform
      simp only [Answer.truth.injEq, isDownloaded_eq (source_copy (.ofTransfer t) settings),
        decide_eq_true_eq]
      exact ⟨hdone, trivial⟩
    | change storage => cases huse
  shares := by
    intro settings
    rw [isDownloaded_eq (source_copy (.ofTransfer t) settings), decide_eq_true_eq]
    exact done_perform_iff hdone use

/-- Every moment of a life is as those before it make it, whatever came before the life. -/
theorem life_follows {uses : List Use} {past : List Moment}
    (hdone : t.number ∈ s.done ↔ ∃ m ∈ past, m.Fetches) {earlier later : List Moment} {m : Moment}
    (h : life (.ofTransfer t) s uses = earlier ++ m :: later) : m.Follows t (past ++ earlier) := by
  induction uses generalizing s past earlier with
  | nil => simp [life] at h
  | cons use uses ih =>
    rw [life] at h
    cases earlier with
    | nil =>
      obtain ⟨rfl, -⟩ := List.cons.inj h
      rw [List.append_nil]
      exact perform_follows hdone use
    | cons first earlier =>
      obtain ⟨rfl, hrest⟩ := List.cons.inj h
      have hfollows := ih (done_perform_iff hdone use) hrest
      rwa [List.append_assoc, List.singleton_append] at hfollows

/-- A transfer is noted as done once at most. -/
theorem life_done_once {uses : List Use} (hdone : s.done.count t.number ≤ 1) :
    ∀ m ∈ life (.ofTransfer t) s uses, m.after.done.count t.number ≤ 1 := by
  induction uses generalizing s with
  | nil => simp [life]
  | cons use uses ih =>
    have hafter := (perform_notes t s use).once (by rwa [before_perform])
    intro m hm
    rcases List.mem_cons.1 hm with rfl | hm
    · exact hafter
    · exact ih hafter m hm

/-- **Content is fetched once.** In the life of a remote file value, whatever happens to storage,
each download on a copy makes one attempt as long as none has succeeded, and a failed one leaves all
copies as they were. Once one has succeeded all copies are downloaded, every download gives the same
path and touches nothing, and no transfer succeeds again. -/
theorem life_fetched_once {s₀ : Session} {uri : String} {target : FilePath} (hs : s₀.Sound)
    (hissue : outcome (Marshal.issue uri target) s₀ = (.ok t, s)) (uses : List Use) :
    (∀ earlier m later, life (.ofTransfer t) s uses = earlier ++ m :: later →
        m.Follows t earlier) ∧
      (∀ m ∈ life (.ofTransfer t) s uses, m.after.done.count t.number ≤ 1) ∧
      ∀ g : FileValue, g.Made → (g.isLazy = true ↔ g.remoteSource.isSome = true) := by
  -- a transfer that was just handed out is not done
  have hfresh : t.number ∉ s.done := by
    unfold Marshal.issue at hissue
    rw [outcome_get_bind] at hissue
    cases hissue
    intro hmem
    exact Nat.lt_irrefl _ (hs.done _ hmem)
  refine ⟨fun earlier m later h => ?_, ?_, fun g hg => hg.isLazy_iff⟩
  · have hnone : t.number ∈ s.done ↔ ∃ m ∈ ([] : List Moment), m.Fetches := by simp [hfresh]
    have hfollows := life_follows hnone h
    rwa [List.nil_append] at hfollows
  · exact life_done_once (by rw [List.count_eq_zero_of_not_mem hfresh]; exact Nat.zero_le 1)

/-- Storage in which the object of `s3://bucket/raw/x.csv` has come in. -/
def arrived : Storage := {
  (Files.oneFile "a.txt").storage with
  stores := (Files.oneFile "a.txt").storage.stores.put 0 "raw/x.csv" ⟨[120], {}⟩ }

/-- A download before the object is there, one on a copy after, and two calls on other copies. -/
def retried : List Use :=
  [.download [], .change arrived, .download [.extension "csv"], .isDownloaded [.destination .disabled],
    .change (Files.oneFile "a.txt").storage, .download [.metadata none]]

theorem life_fetched_once_retried : ∃ t s,
    outcome (Marshal.issue "s3://bucket/raw/x.csv" (.ofText "/sandbox/x.csv"))
        (Files.oneFile "a.txt") = (.ok t, s) ∧
      (life (.ofTransfer t) s retried).map (·.answer) =
        [.path (.error (StorageError.notFound "raw/x.csv").toFailure), .nothing,
          .path (.ok (.ofText "/sandbox/x.csv")), .truth true, .nothing,
          .path (.ok (.ofText "/sandbox/x.csv"))] ∧
      (∀ earlier m later, life (.ofTransfer t) s retried = earlier ++ m :: later →
        m.Follows t earlier) ∧
      ∀ m ∈ life (.ofTransfer t) s retried, m.after.done.count t.number ≤ 1 := by
  have hissue : outcome (Marshal.issue "s3://bucket/raw/x.csv" (.ofText "/sandbox/x.csv"))
      (Files.oneFile "a.txt") = (.ok _, _) := rfl
  obtain ⟨hfollows, honce, -⟩ :=
    life_fetched_once (Files.oneFile_sound "a.txt") hissue retried
  exact ⟨_, _, hissue, by decide +kernel, hfollows, honce⟩

end FileValue

end Workflow
