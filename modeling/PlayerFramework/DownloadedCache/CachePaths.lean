import PlayerFramework.DownloadedCache.CacheMappingReads

/-!
Which paths the mapping file can make the manager return.
-/

namespace PlayerFramework.DownloadedCache.DownloadedCacheManager

open Cursor Paths CacheMappingSerializer

theorem getMediaCache_found {sha256 : List UInt8 → Block 32} {manager : DownloadedCacheManager}
    {url : List UInt8} (found : getMediaCache sha256 manager url ≠ []) :
    ∃ relativePath, PathValidator.validate manager.cacheDir relativePath = true ∧
      getMediaCache sha256 manager url = manager.cacheDir ++ slash :: relativePath := by
  unfold getMediaCache at found ⊢
  cases entry : manager.index.lookup (SHA256Hasher.hashToString (sha256 url)) with
  | none =>
    rw [entry] at found
    exact absurd rfl found
  | some entry' =>
    rw [entry] at found
    cases valid : PathValidator.validate manager.cacheDir entry'.filePath with
    | false =>
      simp only [valid] at found
      exact absurd rfl found
    | true =>
      refine ⟨entry'.filePath, valid, ?_⟩
      simp [valid]

section Confinement

variable (crc32 : List UInt8 → UInt32) (sha256 : List UInt8 → Block 32)
  (normalize files : List UInt8 → Option (List UInt8)) (cacheDir url : List UInt8)

/-- A path that the manager returns means the cache directory or something in it, its relative
part has no end of a string inside, and `IsValidPath` takes it unless it is too long. -/
theorem media_cache_confined
    (found : getMediaCache sha256 (create crc32 normalize files cacheDir) url ≠ []) :
    let manager := create crc32 normalize files cacheDir
    let path := getMediaCache sha256 manager url
    Inside manager.cacheDir path ∧
      (∃ relativePath, path = manager.cacheDir ++ slash :: relativePath ∧ 0 ∉ relativePath) ∧
      (isValidPath manager.cacheDir path = true ↔ path.length ≤ pathMax) := by
  intro manager path
  obtain ⟨relativePath, valid, returned⟩ := getMediaCache_found found
  have whole : path = manager.cacheDir ++ slash :: relativePath := returned
  rw [whole]
  exact ⟨PathValidator.validate_inside valid,
    ⟨relativePath, rfl, PathValidator.validate_no_nul valid⟩, isValidPath_of_validate valid⟩

end Confinement

def sampleUrl : List UInt8 := [117]

def sampleHash : Block 32 :=
  ⟨[11, 254, 147, 94, 112, 195, 33, 199, 202, 58, 252, 117, 206, 13, 12, 162, 249, 139, 84, 34,
    224, 8, 187, 49, 192, 12, 109, 127, 31, 28, 10, 214], rfl⟩

/-- The checksum and the hash at the inputs of the samples. -/
def sampleChecksum (data : List UInt8) : UInt32 :=
  if data = headerFields ⟨cacheMappingMagic, 1, 1, zeros, 0⟩ then 1562636892
  else 0

def sampleSha256 (data : List UInt8) : Block 32 :=
  if data = sampleUrl then sampleHash else ⟨List.replicate 32 0, List.length_replicate⟩

/-- A mapping file with one entry, for the sample URL. -/
def sampleFile (relativePath : List UInt8) : List UInt8 :=
  writeHeader sampleChecksum ⟨cacheMappingMagic, 1, 1, zeros, 0⟩ ++
    writePlaybackParamData [0, 0, 0, 0] 4 ++
    entryBytes ⟨⟨sampleHash, UInt32.ofNat relativePath.length, 1, zeros⟩, relativePath⟩

def sampleManager (cacheDir relativePath : List UInt8) : DownloadedCacheManager :=
  create sampleChecksum some (fun _ => some (sampleFile relativePath)) cacheDir

theorem sampleManager_found {cacheDir relativePath : List UInt8}
    (valid : PathValidator.validate cacheDir relativePath = true) :
    getMediaCache sampleSha256 (sampleManager cacheDir relativePath) sampleUrl =
      cacheDir ++ slash :: relativePath := by
  obtain ⟨rooted, -, short, -⟩ := PathValidator.validate_checks valid
  let entry : CacheMappingEntry :=
    ⟨⟨sampleHash, UInt32.ofNat relativePath.length, 1, zeros⟩, relativePath⟩
  have length : (UInt32.ofNat relativePath.length).toNat = relativePath.length := by
    have size : UInt32.size = 4294967296 := rfl
    unfold maxPathLength at short
    exact UInt32.toNat_ofNat_of_lt' (by omega)
  have fit : ∀ other ∈ [entry], CacheMappingDeserializer.Fits other := by
    intro other member
    rw [List.mem_singleton.mp member]
    exact ⟨length, short⟩
  have parameters : PlayStrategySerializer.deserialize [0, 0, 0, 0] = some ([], {}, {}) := by
    decide +kernel
  have loaded := @loadCacheMapping_written sampleChecksum cacheDir 1 4 _ _ _ (by decide) (by simp)
    rfl (by decide) parameters fit
  have file : sampleFile relativePath = writeHeader sampleChecksum
      ⟨cacheMappingMagic, cacheMappingVersion, 1, zeros, 0⟩ ++
        (uint32Bytes 4 ++ [0, 0, 0, 0]) ++ [entry].flatMap entryBytes := by
    rw [List.flatMap_singleton]
    rfl
  have manager : sampleManager cacheDir relativePath =
      loadCacheMapping sampleChecksum cacheDir (sampleFile relativePath) := by
    rw [sampleManager, create, if_neg rooted]
  have single : taken cacheDir (1 : UInt32).toNat [entry] = [entry] := by
    have here : PathValidator.validate cacheDir entry.filePath = true := valid
    simp [taken, here]
  have hash : sampleSha256 sampleUrl = sampleHash := if_pos rfl
  rw [manager, file, loaded, single, getMediaCache, hash]
  simp [keyed, entry, valid]

def sevenBytes : List UInt8 := [97, 97, 97, 97, 97, 97, 97]

/-- A directory of 4072 bytes. -/
def deepDirectory : List UInt8 := slash :: join slash (sevenBytes :: List.replicate 508 sevenBytes)

theorem length_join_sevenBytes (count : Nat) :
    (join slash (sevenBytes :: List.replicate count sevenBytes)).length = 7 + count * 8 := by
  simp [join_cons, sevenBytes, List.length_flatMap]
  omega

def longName : List UInt8 := List.replicate 24 98

theorem deepDirectory_takes_longName : PathValidator.validate deepDirectory longName = true := by
  have plain : PathValidator.Plain sevenBytes := by
    decide
  refine PathValidator.validate_plain ?_ (List.cons_ne_nil _ _) ?_ ?_ ?_
  · intro part member
    rcases List.mem_cons.mp member with rfl | later
    · exact plain
    · rw [List.eq_of_mem_replicate later]
      exact plain
  · decide
  · decide
  · decide

theorem confined_in_directory :
    Inside [47, 99] (getMediaCache sampleSha256 (sampleManager [47, 99] [98]) sampleUrl) :=
  (media_cache_confined sampleChecksum sampleSha256 some (fun _ => some (sampleFile [98])) [47, 99]
    sampleUrl (by decide +kernel)).1

/-- An entry for `.` gives the directory itself, and a name in a deep directory gives a path
that `IsValidPath` refuses. -/
theorem directory_or_refused :
    (getMediaCache sampleSha256 (sampleManager [47, 99] [dot]) sampleUrl = [47, 99, 47, 46] ∧
      ¬ StrictlyInside [47, 99] [47, 99, 47, 46]) ∧
    (getMediaCache sampleSha256 (sampleManager deepDirectory longName) sampleUrl =
        deepDirectory ++ slash :: longName ∧
      isValidPath deepDirectory (deepDirectory ++ slash :: longName) = false) := by
  refine ⟨⟨sampleManager_found (by decide), ?_⟩,
    sampleManager_found deepDirectory_takes_longName, ?_⟩
  · intro strictly
    exact strictly.2 (by decide)
  · have long : pathMax < (deepDirectory ++ slash :: longName).length := by
      rw [List.length_append, deepDirectory, List.length_cons, length_join_sevenBytes]
      decide
    rw [isValidPath, if_pos long]

end PlayerFramework.DownloadedCache.DownloadedCacheManager
