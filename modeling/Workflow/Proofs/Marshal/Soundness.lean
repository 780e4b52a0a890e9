import Workflow.Marshal.Files
import Workflow.Proofs.Marshal.Session

/-!
# Sessions stay sound

Every session starts sound, and none of the calls on files and storage ends that, whether it fails
or not.

* `Storage.KeepsStores`: calls on storage keep the stores apart.
* `toLiteral_stays`, `toHostValue_stays`, `download_sound`: so do the calls of marshalling.
-/

namespace Workflow

open Calls

namespace Storage

/-- Stores that were sound still are. -/
def KeepsStores (s s' : Storage) : Prop := s.stores.Sound → s'.stores.Sound

theorem KeepsStores.refl (s : Storage) : s.KeepsStores s := id

theorem KeepsStores.trans {s s' s'' : Storage} (h : s.KeepsStores s') (h' : s'.KeepsStores s'') :
    s.KeepsStores s'' := fun hs => h' (h hs)

/-- Calls that leave the stores alone. -/
theorem keepsStores_of_eq {s s' : Storage} (h : s'.stores = s.stores) : s.KeepsStores s' := by
  intro hs
  rw [h]
  exact hs

theorem SameFiles.keepsStores {s s' : Storage} (h : s.SameFiles s') : s.KeepsStores s' := h.sound

theorem registerStore_keeps (base : String) : Within KeepsStores (registerStore base) :=
  .bind .trans ((locate_within base).mono (·.keepsStores)) fun location =>
    .get_bind fun _ hs => hs.openStore location.store

theorem onFiles_keeps (f : FileSystem → FileSystem × Except OsError Unit) :
    Within KeepsStores (onFiles f) :=
  onFiles_within_of (fun _ _ => keepsStores_of_eq rfl) f

theorem createParent_keeps (p : FilePath) : Within KeepsStores (createParent p) :=
  createParent_within_of .refl (fun _ _ => keepsStores_of_eq rfl) p

theorem putBytes_keeps (uri : String) (content : Bytes) (headers : UploadHeaders) :
    Within KeepsStores (putBytes uri content headers) :=
  putBytes_within_of .refl .trans ((putRemote_within uri content headers).mono (·.keepsStores))
    (putLocal_within_of .refl .trans fun _ _ => keepsStores_of_eq rfl)

theorem getData_keeps (uri : String) (target : FilePath) :
    Within KeepsStores (getData uri target) :=
  .bind .trans ((getBytes_within uri).mono (·.keepsStores)) fun _ =>
    .bind .trans (createParent_keeps target) fun _ => onFiles_keeps _

theorem putData_keeps (source : FilePath) (uri : String) (headers : UploadHeaders) :
    Within KeepsStores (putData source uri headers) := by
  refine .bind .trans (.get_bind fun s => ?_) fun content => putBytes_keeps uri content headers
  split
  · exact .refl s
  · exact .refl s

theorem putRawData_keeps (source : FilePath) (headers : UploadHeaders) :
    Within KeepsStores (putRawData source headers) := by
  refine .bind .trans (fun s => keepsStores_of_eq rfl) fun uri => putData_keeps source uri headers

theorem scratchPath_keeps (hint : Option String) : Within KeepsStores (scratchPath hint) :=
  fun _ => keepsStores_of_eq rfl

end Storage

namespace Session

/-- A session that was sound still is, and no fewer transfers were handed out. -/
def StaysSound (s s' : Session) : Prop := s.Sound → s'.Sound ∧ s.issued ≤ s'.issued

theorem StaysSound.refl (s : Session) : s.StaysSound s := fun hs => ⟨hs, Nat.le_refl _⟩

theorem StaysSound.trans {s s' s'' : Session} (h : s.StaysSound s') (h' : s'.StaysSound s'') :
    s.StaysSound s'' := by
  intro hs
  obtain ⟨hs', hle⟩ := h hs
  obtain ⟨hs'', hle'⟩ := h' hs'
  exact ⟨hs'', Nat.le_trans hle hle'⟩

end Session

namespace Marshal

variable {α : Type}

theorem ofStorage_stays {action : Storage.Action α} (h : Within Storage.KeepsStores action) :
    Within Session.StaysSound (ofStorage action) := by
  intro s hs
  have hstorage := h s.storage hs.stores
  rw [ofStorage, outcome_onStorage]
  rcases hend : outcome action s.storage with ⟨e | x, storage⟩ <;> rw [hend] at hstorage
  · exact ⟨⟨hstorage, hs.done⟩, Nat.le_refl _⟩
  · exact ⟨⟨hstorage, hs.done⟩, Nat.le_refl _⟩

theorem ofExcept_stays (e : Except Failure α) : Within Session.StaysSound (ofExcept e) := by
  cases e with
  | ok x => exact .pure .refl x
  | error f => exact .throw .refl f

theorem localPath_stays (uri : String) : Within Session.StaysSound (localPath uri) :=
  ofExcept_stays _

theorem isFile_stays (p : FilePath) : Within Session.StaysSound (isFile p) :=
  fun s => .refl s

theorem notify_stays (notice : KeptFile) : Within Session.StaysSound (notify notice) :=
  .modify fun _ hs => ⟨⟨hs.stores, hs.done⟩, Nat.le_refl _⟩

theorem issue_stays (uri : String) (target : FilePath) :
    Within Session.StaysSound (issue uri target) :=
  .get_bind fun _ hs => ⟨⟨hs.stores, fun n hn => Nat.lt_succ_of_lt (hs.done n hn)⟩, Nat.le_succ _⟩

end Marshal

namespace Files

open Session (StaysSound)

theorem uploadsPlain_stays (ctx : Context) (declared : Declared) (path : String)
    (mismatch : FailureKind) : Within StaysSound (uploadsPlain ctx declared path mismatch) := by
  unfold uploadsPlain
  split
  · exact .pure .refl _
  · refine .bind .trans (Marshal.ofExcept_stays _) fun _ => ?_
    split
    · exact .pure .refl _
    refine .bind .trans (Marshal.localPath_stays path) fun p => ?_
    refine .bind .trans (Marshal.isFile_stays p) fun isFile => ?_
    split
    · exact .pure .refl _
    · exact .throw .refl _

theorem uploadsFile_stays (ctx : Context) (declared : Declared) (t : HostType) (f : FileValue) :
    Within StaysSound (uploadsFile ctx declared t f) := by
  refine .bind .trans (Marshal.ofExcept_stays _) fun _ => ?_
  split
  · exact .pure .refl _
  split
  · exact .bind .trans (Marshal.notify_stays _) fun _ => .pure .refl _
  · exact .pure .refl _

theorem outgoing_stays (o : Outgoing) (declared : Declared) :
    Within StaysSound (o.toLiteral declared) := by
  have hupload : Within StaysSound (upload o.path o.destination) := by
    refine .bind .trans (Marshal.localPath_stays _) fun source => ?_
    split
    · exact .bind .trans (Marshal.ofStorage_stays (Storage.putData_keeps _ _ _)) fun _ =>
        .pure .refl _
    · exact .bind .trans (Marshal.ofStorage_stays (Storage.putRawData_keeps _ _)) fun _ =>
        .pure .refl _
  unfold Outgoing.toLiteral
  split
  · exact .bind .trans hupload fun _ => .pure .refl _
  · exact .pure .refl _

/-- **Writing a literal** keeps a session sound. -/
theorem toLiteral_stays (ctx : Context) (value : HostValue) (t : HostType) :
    Within StaysSound (toLiteral ctx value t) := by
  unfold toLiteral
  by_cases hnone : value.isNone = true
  · rw [if_pos hnone]
    exact .throw_bind .refl _
  rw [if_neg hnone]
  refine .bind .trans (Marshal.ofExcept_stays _) fun declared => ?_
  split
  · split
    · exact .pure .refl _
    · exact .bind .trans (uploadsFile_stays _ _ _ _) fun _ => outgoing_stays _ _
  · exact .bind .trans (uploadsPlain_stays _ _ _ _) fun _ => outgoing_stays _ _
  · exact .bind .trans (uploadsPlain_stays _ _ _ _) fun _ => outgoing_stays _ _
  · exact .throw .refl _

theorem ofUri_stays (uri : String) (metadata : Option Dict) (t : HostType) :
    Within StaysSound (ofUri uri metadata t) := by
  have hlocal : Within StaysSound (isLocalFile uri) := by
    unfold isLocalFile
    split
    · exact Marshal.isFile_stays _
    · exact .pure .refl _
  unfold ofUri
  by_cases hremote : Uri.isRemote uri = true
  · rw [if_neg (by simp [hremote])]
    refine .bind .trans (Marshal.ofExcept_stays _) fun declared => ?_
    split
    · exact .pure .refl _
    rw [if_pos hremote]
    refine .bind .trans (Marshal.ofStorage_stays (Storage.scratchPath_keeps _)) fun scratch => ?_
    exact .bind .trans (Marshal.issue_stays uri scratch) fun _ => .pure .refl _
  · rw [if_pos (by simpa using hremote)]
    refine .bind .trans hlocal fun found => ?_
    split
    · exact .throw_bind .refl _
    · refine .bind .trans (Marshal.ofExcept_stays _) fun declared => ?_
      split
      · exact .pure .refl _
      · exact .pure .refl _

/-- **Reading a literal** keeps a session sound. -/
theorem toHostValue_stays (literal : Literal) (t : HostType) :
    Within StaysSound (toHostValue literal t) := by
  have hblob : ∀ literal, Within StaysSound (ofBlob literal t) := by
    intro literal
    unfold ofBlob
    split
    · exact .throw .refl _
    · split
      · exact .bind .trans (ofUri_stays _ _ _) fun _ => .pure .refl _
      · exact .throw .refl _
  have hrecord : ∀ record : Except Failure FileRecord, Within StaysSound (do
      ofRecord (← Marshal.ofExcept record) t) := fun record =>
    .bind .trans (Marshal.ofExcept_stays _) fun _ =>
      .bind .trans (Marshal.ofExcept_stays _) fun literal => hblob literal
  unfold toHostValue
  split
  · exact hrecord _
  · exact hrecord _
  · exact hblob literal

end Files

/-- **A download** keeps a session sound, if its transfer was handed out. -/
theorem FileValue.download_sound {f : FileValue} {s : Session} (hs : s.Sound)
    (hf : ∀ t, f.source = .remote t → t.number < s.issued) : (outcome f.download s).2.Sound := by
  unfold download
  split
  · exact hs
  · exact hs
  · rename_i t hsource
    have hrun : (outcome t.run s).2.Sound := by
      unfold Transfer.run
      rw [outcome_get_bind]
      split
      · exact hs
      · have hget := Marshal.ofStorage_stays (Storage.getData_keeps t.uri t.target) s hs
        rw [outcome_bind]
        rcases hend : outcome (Marshal.ofStorage (Storage.getData t.uri t.target)) s with ⟨e | _, s'⟩
        · rw [hend] at hget
          exact hget.1
        · rw [hend] at hget
          refine ⟨hget.1.stores, fun n hn => ?_⟩
          rcases List.mem_cons.1 hn with rfl | hn
          · exact Nat.lt_of_lt_of_le (hf t hsource) hget.2
          · exact hget.1.done n hn
    rw [outcome_bind]
    rcases hend : outcome t.run s with ⟨e | _, s'⟩
    · rw [hend] at hrun
      exact hrun
    · rw [hend] at hrun
      exact hrun

end Workflow
