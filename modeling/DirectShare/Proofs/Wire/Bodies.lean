import Mathlib
import DirectShare.Proofs.Json.Fields
import DirectShare.Wire.DeviceInfo
import DirectShare.Wire.NetworkInfo
import DirectShare.Wire.SendRequest
import DirectShare.Wire.StatusReport
import DirectShare.Wire.VersionOffer

/-!
# Reading written bodies

Offers, announcements and reports are read back from the bodies that carry them, and the
descriptions of devices and networks from their bytes.

Every record satisfies `Json.Record.ReadsBack`, by reading its fields one by one. So offers, announcements and
reports are read back from their bodies (`VersionOffer.ofJson?_toJson`, `SendRequest.ofJson?_toJson`,
`StatusReport.ofJson?_toJson`), and descriptions from their bytes (`DeviceInfo.decode_encode`,
`NetworkInfo.decode_encode`).
-/

namespace DirectShare

open Json

/-! ### Offers -/

namespace VersionOffer

/-- An offer is read back. -/
lemma readsBack (offer : VersionOffer) : Record.ReadsBack offer where
  nodup := by
    have hsub : ((Record.fields offer).map Prod.fst).Sublist
        (["version", "versions", "minVersion", "maxVersion", "supportsEncryption"]
          ++ ["ephemeralPublicValue"] ++ ["threadLimit"]) := by
      simp only [Record.fields, List.map_append]
      exact ((List.Sublist.refl _).append (ifSome_names _ _ _)).append (ifSome_names _ _ _)
    exact hsub.nodup (by decide)
  reads := by
    intro t ht
    have hlist := Tree.list?_toTree Tree.uint32?_toTree offer.versions
    simp only [Record.ofTree?, ht _, Record.fields, List.map_cons, List.map_nil, List.lookup_append,
      lookup_ifSome, List.lookup_cons]
    simp [Field.required, Field.withDefault, hlist]

/-- An offer is read back from its body. -/
theorem ofJson?_toJson (offer : VersionOffer) : Record.ofJson? (Record.toJson offer) = some offer :=
  Record.ofJson?_toJson offer.readsBack

/-- The body of an offer is readable. -/
lemma isReadable_toJson (offer : VersionOffer) : (Record.toJson offer).IsReadable 2 := by
  refine IsReadable.ofFields offer.readsBack.nodup ?_
  have hword : ∀ n : UInt32, n.toNat < 0x10000000000000000 := fun n => by
    have := n.toNat_lt
    omega
  have hlist : (Json.array (offer.versions.map (ofNat ·.toNat))).IsReadable 1 := by
    refine IsReadable.array fun v hv => ?_
    obtain ⟨n, -, rfl⟩ := List.mem_map.1 hv
    exact IsReadable.ofNat (hword n)
  simp only [Record.fields, List.forall_mem_append, List.forall_mem_cons]
  refine ⟨⟨⟨?_, hlist, ?_, ?_, ?_, by simp⟩, ?_⟩, ?_⟩
  · exact IsReadable.ofNat (hword _)
  · exact IsReadable.orNull fun n => IsReadable.ofNat (hword n)
  · exact IsReadable.orNull fun n => IsReadable.ofNat (hword n)
  · exact IsReadable.bool _
  · exact IsReadable.ifSome IsReadable.string
  · exact IsReadable.ifSome fun n => IsReadable.ofNat (hword n)

end VersionOffer

/-! ### Announcements -/

/-- The name and size of an announced file are read back. -/
lemma FileSummary.readsBack (file : FileSummary) : Record.ReadsBack file where
  nodup := by
    show ["name", "size"].Nodup
    decide
  reads := by
    intro t ht
    simp only [Record.ofTree?, ht _, Record.fields, List.map_cons, List.map_nil, List.lookup_cons]
    simp [Field.required]

/-- The name and size of an announced file are readable, as an object. -/
lemma FileSummary.isReadable_object (file : FileSummary) :
    (Json.object (Record.fields file)).IsReadable 1 := by
  refine IsReadable.object ?_ ?_
  · show ["name", "size"].Pairwise (· < ·)
    decide
  · simp only [Record.fields, List.forall_mem_cons]
    exact ⟨IsReadable.string _, IsReadable.ofNat file.size.toNat_lt, by simp⟩

namespace SendRequest

/-- The announced files are read back from their array. -/
lemma list?_files (files : List FileSummary) :
    (Json.array (files.map fun file => .object (Record.fields file))).toTree.list? Record.ofTree? =
      some files :=
  Tree.list?_toTree (fun file => file.readsBack.reads (shows_object file.readsBack.nodup)) files

/-- An announcement is read back. -/
lemma readsBack (request : SendRequest) : Record.ReadsBack request where
  nodup := by
    have hfiles : ((if request.files = [] then []
        else [("files", Json.array (request.files.map fun file => .object (Record.fields file)))]).map
          Prod.fst).Sublist ["files"] := by
      split
      · exact List.nil_sublist _
      · exact List.Sublist.refl _
    have hsub : ((Record.fields request).map Prod.fst).Sublist
        (["taskId", "id", "senderId", "senderName", "fileName", "mimeType", "fileCount", "totalSize"]
          ++ ["catShareText"] ++ ["thumbnail"] ++ ["files"]) := by
      simp only [Record.fields, List.map_append]
      exact (((List.Sublist.refl _).append (ifSome_names _ _ _)).append (ifSome_names _ _ _)).append
        hfiles
    exact hsub.nodup (by decide)
  reads := by
    intro t ht
    have hlist := list?_files request.files
    by_cases hfiles : request.files = []
    · simp only [Record.ofTree?, ht _, Record.fields, List.map_cons, List.map_nil, List.lookup_append,
        lookup_ifSome, List.lookup_cons, if_pos hfiles]
      simp [Field.withDefault, ← hfiles]
    · simp only [Record.ofTree?, ht _, Record.fields, List.map_cons, List.map_nil, List.lookup_append,
        lookup_ifSome, List.lookup_cons, if_neg hfiles]
      simp only [Record.ofTree?, Record.fields, Option.bind_eq_bind, Option.pure_def] at hlist
      simp [Field.withDefault, hlist]

/-- An announcement is read back from its body. -/
theorem ofJson?_toJson (request : SendRequest) :
    Record.ofJson? (Record.toJson request) = some request :=
  Record.ofJson?_toJson request.readsBack

/-- The body of an announcement is readable. -/
lemma isReadable_toJson (request : SendRequest) : (Record.toJson request).IsReadable 3 := by
  refine IsReadable.ofFields request.readsBack.nodup ?_
  have hcount : request.fileCount.toNat < 0x10000000000000000 := by
    have := request.fileCount.toNat_lt
    omega
  have hlist : (Json.array (request.files.map fun file => .object (Record.fields file))).IsReadable 2 := by
    refine IsReadable.array fun v hv => ?_
    obtain ⟨file, -, rfl⟩ := List.mem_map.1 hv
    exact file.isReadable_object
  simp only [Record.fields, List.forall_mem_append, List.forall_mem_cons]
  refine ⟨⟨⟨⟨?_, ?_, ?_, ?_, ?_, ?_, ?_, ?_, by simp⟩, ?_⟩, ?_⟩, ?_⟩
  · exact IsReadable.orNull IsReadable.string
  · exact IsReadable.orNull IsReadable.string
  · exact IsReadable.orNull IsReadable.string
  · exact IsReadable.string _
  · exact IsReadable.string _
  · exact IsReadable.string _
  · exact IsReadable.ofNat hcount
  · exact IsReadable.ofNat request.totalSize.toNat_lt
  · exact IsReadable.ifSome IsReadable.string
  · exact IsReadable.ifSome IsReadable.string
  · split
    · simp
    · simp only [Record.fields] at hlist
      simpa using hlist

end SendRequest

/-! ### Reports -/

namespace StatusReport

/-- A report is read back. -/
lemma readsBack (report : StatusReport) : Record.ReadsBack report where
  nodup := by
    show ["taskId", "id", "type", "reason"].Nodup
    decide
  reads := by
    intro t ht
    simp only [Record.ofTree?, ht _, Record.fields, List.map_cons, List.map_nil, List.lookup_cons]
    simp [Field.withDefault]

/-- A report is read back from its body. -/
theorem ofJson?_toJson (report : StatusReport) : Record.ofJson? (Record.toJson report) = some report :=
  Record.ofJson?_toJson report.readsBack

/-- The body of a report is readable. -/
lemma isReadable_toJson (report : StatusReport) : (Record.toJson report).IsReadable 1 := by
  refine IsReadable.ofFields report.readsBack.nodup ?_
  have hlow := report.code.le_toInt
  have hhigh := report.code.toInt_lt
  simp only [Record.fields, List.forall_mem_cons]
  refine ⟨?_, ?_, ?_, ?_, by simp⟩
  · exact IsReadable.orNull IsReadable.string
  · exact IsReadable.orNull IsReadable.string
  · exact IsReadable.ofInt (by omega) (by omega)
  · exact IsReadable.string _

/-- A report that is made of an outcome has this outcome. -/
@[simp] lemma outcome_ofOutcome (task : String) (outcome : Outcome) (reason : String) :
    (ofOutcome task outcome reason).outcome = outcome := Outcome.ofCode_code outcome

/-- A report that is made for a task names it. -/
@[simp] lemma task?_ofOutcome (task : String) (outcome : Outcome) (reason : String) :
    (ofOutcome task outcome reason).task? = some task := rfl

end StatusReport

/-! ### Descriptions -/

namespace DeviceInfo

/-- A device description is read back. -/
lemma readsBack (info : DeviceInfo) : Record.ReadsBack info where
  nodup := by
    have hsub : ((Record.fields info).map Prod.fst).Sublist
        (["state"] ++ ["key"] ++ ["mac"] ++ ["catShare"] ++ ["name"] ++ ["brand"] ++ ["minVersion"]
          ++ ["capabilities"]) := by
      simp only [Record.fields, List.map_append]
      refine List.Sublist.append ?_ (List.Sublist.refl _)
      refine List.Sublist.append ?_ (ifSome_names _ _ _)
      refine List.Sublist.append ?_ (ifSome_names _ _ _)
      refine List.Sublist.append ?_ (ifSome_names _ _ _)
      refine List.Sublist.append ?_ (ifSome_names _ _ _)
      refine List.Sublist.append ?_ (List.Sublist.refl _)
      exact (List.Sublist.refl _).append (ifSome_names _ _ _)
    exact hsub.nodup (by decide)
  reads := by
    intro t ht
    simp only [Record.ofTree?, ht _, Record.fields, List.map_cons, List.map_nil, List.lookup_append,
      lookup_ifSome, List.lookup_cons]
    simp [Field.required, Field.withDefault]

/-- A device description is read back from its bytes. -/
theorem decode_encode (info : DeviceInfo) : decode (Record.encode info) = .ok info := by
  have hread : Record.ofBytes? (Record.encode info) = some info := by
    refine Record.ofBytes?_encode info.readsBack (n := 0) ?_
    have hword : ∀ n : UInt32, n.toNat < 0x10000000000000000 := fun n => by
      have := n.toNat_lt
      omega
    have hbyte : ∀ n : UInt8, n.toNat < 0x10000000000000000 := fun n => by
      have := n.toNat_lt
      omega
    have hlow := info.state.le_toInt
    have hhigh := info.state.toInt_lt
    simp only [Record.fields, List.forall_mem_append, List.forall_mem_cons]
    refine ⟨⟨⟨⟨⟨⟨⟨⟨?_, by simp⟩, ?_⟩, ⟨?_, by simp⟩⟩, ?_⟩, ?_⟩, ?_⟩, ?_⟩, ⟨?_, by simp⟩⟩
    · exact IsReadable.ofInt (by omega) (by omega)
    · exact IsReadable.ifSome IsReadable.string
    · exact IsReadable.string _
    · exact IsReadable.ifSome fun n => IsReadable.ofNat (hword n)
    · exact IsReadable.ifSome IsReadable.string
    · exact IsReadable.ifSome fun n => IsReadable.ofNat (hbyte n)
    · exact IsReadable.ifSome fun n => IsReadable.ofNat (hword n)
    · exact IsReadable.ofNat (hword _)
  rw [decode, hread]

end DeviceInfo

namespace NetworkInfo

/-- A network description is read back. -/
lemma readsBack (info : NetworkInfo) : Record.ReadsBack info where
  nodup := by
    have hsub : ((Record.fields info).map Prod.fst).Sublist
        (["id"] ++ ["ssid", "psk", "mac", "port"] ++ ["key"] ++ ["catShare"]) := by
      simp only [Record.fields, List.map_append]
      refine List.Sublist.append ?_ (ifSome_names _ _ _)
      refine List.Sublist.append ?_ (ifSome_names _ _ _)
      exact (ifSome_names _ _ _).append (List.Sublist.refl _)
    exact hsub.nodup (by decide)
  reads := by
    intro t ht
    simp only [Record.ofTree?, ht _, Record.fields, List.map_cons, List.map_nil, List.lookup_append,
      lookup_ifSome, List.lookup_cons]
    simp [Field.required]

/-- A network description is read back from its bytes. -/
theorem decode_encode (info : NetworkInfo) : decode (Record.encode info) = .ok info := by
  have hread : Record.ofBytes? (Record.encode info) = some info := by
    refine Record.ofBytes?_encode info.readsBack (n := 0) ?_
    have hint : ∀ n : Int32, (ofInt n.toInt).IsReadable 0 := fun n => by
      have hlow := n.le_toInt
      have hhigh := n.toInt_lt
      exact IsReadable.ofInt (by omega) (by omega)
    simp only [Record.fields, List.forall_mem_append, List.forall_mem_cons]
    refine ⟨⟨⟨?_, ?_, ?_, ?_, ?_, by simp⟩, ?_⟩, ?_⟩
    · exact IsReadable.ifSome IsReadable.string
    · exact IsReadable.string _
    · exact IsReadable.string _
    · exact IsReadable.string _
    · exact hint _
    · exact IsReadable.ifSome IsReadable.string
    · exact IsReadable.ifSome hint
  rw [decode, hread]

end NetworkInfo

end DirectShare
