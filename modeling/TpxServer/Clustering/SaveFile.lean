import TpxServer.Clustering.Charge

/-!
# The cluster file

Behind the header the save file should have the published cluster words in order, each with its most
significant byte first. `handlePackets` writes what it publishes, `flush` publishes the open
clusters without writing them. So the file is complete exactly as long as there is nothing to flush.
-/

namespace TpxServer.Clustering

/-! ## Byte order -/

/-- The bytes of a word, the most significant one first. -/
def bigEndian (w : Word) : List Byte :=
  (List.range 8).map fun i => (w >>> (8 * (7 - i))).setWidth 8

theorem length_bigEndian (w : Word) : (bigEndian w).length = 8 := rfl

theorem length_flatMap_bigEndian (ws : List Word) :
    (ws.flatMap bigEndian).length = 8 * ws.length := by
  induction ws with
  | nil => rfl
  | cons w ws ih =>
    rw [List.flatMap_cons, List.length_append, ih, length_bigEndian, List.length_cons]
    omega

/-- What is written to the file are the big-endian bytes. -/
theorem storeLE_htonll (w : Word) : storeLE 8 (Io.htonll w) = bigEndian w := by
  unfold storeLE bigEndian
  refine List.map_congr_left fun k hk => ?_
  have hlt : k < 8 := List.mem_range.mp hk
  apply BitVec.eq_of_getLsbD_eq
  intro i hi
  rw [BitVec.getLsbD_setWidth, BitVec.getLsbD_setWidth, BitVec.getLsbD_ushiftRight,
    BitVec.getLsbD_ushiftRight, Io.getLsbD_htonll _ (by omega),
    show 8 * (7 - (8 * k + i) / 8) + (8 * k + i) % 8 = 8 * (7 - k) + i by omega]

namespace ClusteringManager

/-! ## Calls -/

/-- The header of the save file. -/
def fileHeader : List Byte := [0x43, 0x4C, 0x55, 0x53, 0x54, 0x45, 0x52, 0x53]

/-- There is nothing to flush. -/
def NothingToFlush (m : ClusteringManager) (c : Call) : Prop := c = .flush → m.mOpenClusters = []

instance (m : ClusteringManager) (c : Call) : Decidable (m.NothingToFlush c) :=
  inferInstanceAs (Decidable (_ → _))

/-- The file of `m` has the words published since `m₀`. -/
def FileRecords (m₀ m : ClusteringManager) : Prop :=
  m.mFile = some (fileHeader ++
    (m.published.drop m₀.published.length).flatten.flatMap bigEndian)

instance (m₀ m : ClusteringManager) : Decidable (FileRecords m₀ m) :=
  inferInstanceAs (Decidable (_ = _))

/-- A call appends one message to the published ones, and some words to the file: those of the
message, unless it flushes clusters. -/
theorem call_writes {m : ClusteringManager} {file : List Byte} (hfile : m.mFile = some file)
    (c : Call) : ∃ output written,
      (m.call c).published = m.published ++ [output] ∧
      (m.call c).mFile = some (file ++ written.flatMap bigEndian) ∧
      written.length ≤ output.length ∧
      (written.length = output.length ↔ m.NothingToFlush c) ∧
      (m.NothingToFlush c → written = output) := by
  cases c with
  | handlePackets data =>
    have hnothing : m.NothingToFlush (.handlePackets data) := nofun
    let output := (handleClicks m.settings m.mOpenClusters (data.map Packet.mk)).2.map
      Cluster.toRawValue
    refine ⟨output, output, published_handlePackets m data, ?_, le_rfl, iff_of_true rfl hnothing,
      fun _ => rfl⟩
    · show (m.handlePackets data).mFile = _
      unfold handlePackets write
      dsimp only
      split_ifs with houtput
      · rw [hfile, Option.map_some]
        simp only [storeLE_htonll, output]
      · have hnil : output = [] := not_not.mp houtput
        simp [hfile, hnil]
  | flush =>
    refine ⟨m.mOpenClusters.map Cluster.toRawValue, [], rfl, ?_, Nat.zero_le _, ?_, ?_⟩
    · show m.mFile = _
      rw [hfile]
      simp
    · simp [NothingToFlush, eq_comm]
    · intro h
      rw [h rfl]
      rfl

/-- The calls from a manager on with an open file. -/
theorem run_writes (calls : List Call) : ∀ {m : ClusteringManager} {file : List Byte},
    m.mFile = some file → ∃ output written,
      (m.run calls).published = m.published ++ output ∧
      (m.run calls).mFile = some (file ++ written.flatMap bigEndian) ∧
      written.length ≤ output.flatten.length ∧
      (written.length = output.flatten.length ↔ Runs.EachStep step NothingToFlush m calls) ∧
      (Runs.EachStep step NothingToFlush m calls → written = output.flatten) := by
  induction calls with
  | nil =>
    intro m file hfile
    refine ⟨[], [], ?_, ?_, le_rfl, iff_of_true rfl trivial, fun _ => rfl⟩
    · simp [run]
    · simpa [run] using hfile
  | cons c calls ih =>
    intro m file hfile
    obtain ⟨output, written, hpub, hwritten, hle, hiff, heq⟩ := call_writes hfile c
    obtain ⟨output', written', hpub', hwritten', hle', hiff', heq'⟩ := ih hwritten
    have heach := eachStep_cons NothingToFlush m c calls
    refine ⟨output :: output', written ++ written', ?_, ?_, ?_, ?_, ?_⟩
    · show ((m.call c).run calls).published = _
      rw [hpub', hpub, List.append_assoc]
      rfl
    · show ((m.call c).run calls).mFile = _
      rw [hwritten', List.flatMap_append, List.append_assoc]
    · rw [List.length_append, List.flatten_cons, List.length_append]
      omega
    · rw [heach, ← hiff, ← hiff', List.length_append, List.flatten_cons, List.length_append]
      omega
    · intro h
      obtain ⟨hc, hcalls⟩ := heach.mp h
      rw [heq hc, heq' hcalls]
      rfl

/-- **The cluster file.** After any calls since the file was opened, it has the words published
since then exactly if every flush found no open clusters. -/
theorem file_records_iff (m : ClusteringManager) (path : String) (hpath : path ≠ "")
    (calls : List Call) :
    FileRecords (m.setSaveFile path true).1 ((m.setSaveFile path true).1.run calls) ↔
      Runs.EachStep step NothingToFlush (m.setSaveFile path true).1 calls := by
  have hfile : (m.setSaveFile path true).1.mFile = some fileHeader := by
    unfold setSaveFile
    rw [if_neg (by simpa using hpath), if_pos rfl]
    rfl
  generalize (m.setSaveFile path true).1 = m₀ at hfile
  obtain ⟨output, written, hpub, hwritten, hle, hiff, heq⟩ := run_writes calls hfile
  unfold FileRecords
  rw [hpub, List.drop_left, hwritten, Option.some_inj, List.append_cancel_left_eq]
  constructor
  · intro h
    have hlen := congrArg List.length h
    rw [length_flatMap_bigEndian, length_flatMap_bigEndian] at hlen
    exact hiff.mp (by omega)
  · intro h
    rw [heq h]

/-- The second click closes the cluster of the first one, which goes to the file. -/
theorem file_records_iff_swept :
    let m₀ := (({} : ClusteringManager).setSaveFile "clusters" true).1
    FileRecords m₀ (m₀.run [.handlePackets [clickAt 7 7 1 100, clickAt 9 9 1 60000]]) := by
  refine (file_records_iff {} "clusters" (by decide) _).mpr ?_
  decide +kernel

/-- A single click is flushed: it is published, but the file has only the header. -/
theorem flushed_not_recorded :
    let m₀ := (({} : ClusteringManager).setSaveFile "clusters" true).1
    let m := m₀.run [.handlePackets [clickAt 7 7 1 100], .flush]
    m.mFile = some fileHeader ∧ (m.published.drop m₀.published.length).flatten ≠ [] ∧
      ¬ FileRecords m₀ m := by
  decide +kernel

end ClusteringManager

end TpxServer.Clustering
