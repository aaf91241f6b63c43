import PlayerFramework.Chars
import PlayerFramework.DownloadedCache.CacheMapping
import PlayerFramework.Downloader.CompletionProgress

/-!
The paths that `GetFilePath` derives from the URLs of a task, and which URLs of a task get the
same path.  `hash` is `SHA256Hasher::HashToString` of `GenerateHash`.
-/

namespace PlayerFramework.Downloader

open Transition Chars Cursor

def maxCacheFilenameLen : Nat := 100

def maxExtensionLen : Nat := 20

def downloadCacheBaseDir : List Char :=
  "/data/storage/el2/base/cache/avplayer_downloaded_cache/".toList

def getDefaultCacheDir (hash : List Char → List Char) (url : List Char) : List Char :=
  downloadCacheBaseDir ++ hash url

def isSeparator (char : Char) : Bool := char == '/' || char == '\\'

/-- The last part of `GetFilePath`: a name that is too long keeps a short extension. -/
def shortened (fileName : List Char) : List Char :=
  if maxCacheFilenameLen < fileName.length then
    match findLastOf (· == '.') fileName with
    | some extPos =>
      if fileName.length - extPos < maxExtensionLen then
        fileName.take (maxCacheFilenameLen - (fileName.length - extPos)) ++ fileName.drop extPos
      else fileName.take maxCacheFilenameLen
    | none => fileName.take maxCacheFilenameLen
  else fileName

def getFilePath (hash : List Char → List Char) (rootDir url : List Char) : List Char :=
  let fileName :=
    match findLastOf isSeparator url with
    | some lastSlashPos => url.drop (lastSlashPos + 1)
    | none => url
  let fileName :=
    match fileName.findIdx? (· == '?') with
    | some queryPos => fileName.take queryPos
    | none => fileName
  let fileName := if fileName = [] ∨ ¬ isPathTraversalSafe fileName then hash url else fileName
  rootDir ++ "/1/".toList ++ shortened fileName

/-- The segment of a URL that names its file: the last one, without the query. -/
def lastSegment (url : List Char) : List Char :=
  before '?' (url.rtakeWhile fun char => !isSeparator char)

/-- The extension of a name, with its point, where it is short. -/
def shortExtension (name : List Char) : List Char :=
  let extension := '.' :: name.rtakeWhile (· != '.')
  if '.' ∈ name ∧ extension.length < maxExtensionLen then extension else []

/-- What counts of a name: all of it, or its beginning and its short extension. -/
def countedPart (name : List Char) : List Char :=
  if name.length ≤ maxCacheFilenameLen then name
  else name.take (maxCacheFilenameLen - (shortExtension name).length) ++ shortExtension name

/-- What names the file of a URL: its last segment, or its hash where that names nothing. -/
def ownName (hash : List Char → List Char) (url : List Char) : List Char :=
  if lastSegment url = [] ∨ lastSegment url = ['.', '.'] then hash url else lastSegment url

def fileNameOf (hash : List Char → List Char) (url : List Char) : List Char :=
  countedPart (ownName hash url)

/-- The character of a name that stands at this place of the file's: a long name gives its
beginning and its short extension. -/
def keptChar (name : List Char) (index : Nat) : Option Char :=
  if name.length ≤ maxCacheFilenameLen ∨
      index + (shortExtension name).length < maxCacheFilenameLen then name[index]?
  else name[name.length - maxCacheFilenameLen + index]?

/-- The URLs differ in a character that their files keep. -/
def ToldApart (hash : List Char → List Char) (url other : List Char) : Prop :=
  ∃ index < maxCacheFilenameLen,
    keptChar (ownName hash url) index ≠ keptChar (ownName hash other) index

section Names

variable {name : List Char}

theorem shortExtension_some {position : Nat} (found : findLastOf (· == '.') name = some position) :
    name.length - position = (name.drop position).length ∧ shortExtension name =
      if name.length - position < maxExtensionLen then name.drop position else [] := by
  obtain ⟨char, point, rest⟩ := findLastOf_some found
  rw [beq_iff_eq.mp point] at rest
  have extension : name.drop position = '.' :: name.rtakeWhile (· != '.') := rest
  have inside : '.' ∈ name := List.mem_of_mem_drop (extension ▸ List.mem_cons_self)
  refine ⟨List.length_drop.symm, ?_⟩
  rw [shortExtension, ← extension]
  simp [inside]

theorem shortExtension_none (none : findLastOf (· == '.') name = none) :
    shortExtension name = [] := by
  have absent : '.' ∉ name := by
    intro inside
    have unwanted := findLastOf_none.mp none '.' inside
    cases unwanted
  simp [shortExtension, absent]

theorem shortened_eq (name : List Char) : shortened name = countedPart name := by
  unfold shortened countedPart
  by_cases long : maxCacheFilenameLen < name.length
  · rw [if_pos long, if_neg (Nat.not_le.mpr long)]
    cases found : findLastOf (· == '.') name with
    | none =>
      rw [shortExtension_none found]
      simp
    | some position =>
      obtain ⟨length, short⟩ := shortExtension_some found
      rw [short]
      dsimp only
      split
      · rw [length]
      · simp
  · rw [if_neg long, if_pos (Nat.not_lt.mp long)]

theorem isPathTraversalSafe_segment {segment : List Char} (whole : '/' ∉ segment) :
    isPathTraversalSafe segment = true ↔ segment ≠ ['.', '.'] := by
  have single : segment.splitOn '/' = [segment] := by
    apply List.splitOn_eq_singleton_of_beq_eq_false
    intro char member
    rw [beq_eq_false_iff_ne]
    intro same
    exact whole (same ▸ member)
  rw [isPathTraversalSafe, single]
  simp

theorem lastSegment_whole (url : List Char) : '/' ∉ lastSegment url := by
  intro inside
  have kept := List.mem_takeWhile_imp (List.mem_reverse.mp (List.takeWhile_subset _ inside))
  cases kept

theorem getFilePath_eq (hash : List Char → List Char) (rootDir url : List Char) :
    getFilePath hash rootDir url = rootDir ++ "/1/".toList ++ fileNameOf hash url := by
  have tail : (match findLastOf isSeparator url with
      | some lastSlashPos => url.drop (lastSlashPos + 1)
      | none => url) = url.rtakeWhile fun char => !isSeparator char := by
    split
    · rename_i position found
      obtain ⟨char, _, rest⟩ := findLastOf_some found
      rw [← List.drop_drop, rest]
      rfl
    · rename_i none
      exact (rtakeWhile_of_none none).symm
  have segment : (match (url.rtakeWhile fun char => !isSeparator char).findIdx? (· == '?') with
      | some queryPos => (url.rtakeWhile fun char => !isSeparator char).take queryPos
      | none => url.rtakeWhile fun char => !isSeparator char) = lastSegment url :=
    take_findIdx? _
  have unsafe_iff : ¬ isPathTraversalSafe (lastSegment url) = true ↔
      lastSegment url = ['.', '.'] := by
    rw [isPathTraversalSafe_segment (lastSegment_whole url), not_not]
  calc
    getFilePath hash rootDir url = rootDir ++ "/1/".toList ++ shortened
        (if lastSegment url = [] ∨ ¬ isPathTraversalSafe (lastSegment url) = true then hash url
          else lastSegment url) := by
      unfold getFilePath
      simp [tail, segment]
    _ = rootDir ++ "/1/".toList ++ fileNameOf hash url := by
      rw [shortened_eq, fileNameOf, ownName]
      simp [unsafe_iff]

theorem countedPart_short (short : name.length ≤ maxCacheFilenameLen) :
    countedPart name = name := if_pos short

theorem length_shortExtension (name : List Char) :
    (shortExtension name).length < maxExtensionLen := by
  rw [shortExtension]
  split
  · rename_i short
    exact short.2
  · decide

theorem length_countedPart_long (long : maxCacheFilenameLen < name.length) :
    (countedPart name).length = maxCacheFilenameLen := by
  have extension := length_shortExtension name
  rw [countedPart, if_neg (Nat.not_le.mpr long), List.length_append, List.length_take]
  simp only [maxExtensionLen, maxCacheFilenameLen] at *
  omega

theorem length_countedPart_le (name : List Char) :
    (countedPart name).length ≤ maxCacheFilenameLen := by
  rcases Nat.lt_or_ge maxCacheFilenameLen name.length with long | short
  · exact (length_countedPart_long long).le
  · rwa [countedPart_short short]

theorem shortExtension_suffix (name : List Char) : List.IsSuffix (shortExtension name) name := by
  cases found : findLastOf (· == '.') name with
  | none =>
    rw [shortExtension_none found]
    exact List.nil_suffix
  | some position =>
    rw [(shortExtension_some found).2]
    split
    · exact List.drop_suffix _ _
    · exact List.nil_suffix

theorem getElem?_countedPart (name : List Char) {index : Nat}
    (inside : index < maxCacheFilenameLen) : (countedPart name)[index]? = keptChar name index := by
  have extension := length_shortExtension name
  rw [countedPart, keptChar]
  split_ifs with short kept kept
  · rfl
  · exact absurd (.inl short) kept
  · have first := kept.resolve_left short
    rw [List.getElem?_append_left, List.getElem?_take_of_lt]
    · omega
    · rw [List.length_take]
      omega
  · simp only [maxExtensionLen, maxCacheFilenameLen] at *
    have last := List.suffix_iff_eq_drop.mp (shortExtension_suffix name)
    rw [List.getElem?_append_right, last, List.getElem?_drop, ← last, List.length_take]
    · congr 1
      omega
    · rw [List.length_take]
      omega

/-- The names of the files differ exactly where the URLs do in what is kept of them. -/
theorem fileNameOf_ne_iff {hash : List Char → List Char} {url other : List Char} :
    fileNameOf hash url ≠ fileNameOf hash other ↔ ToldApart hash url other := by
  constructor
  · intro different
    by_contra same
    apply different
    apply List.ext_getElem?
    intro index
    by_cases inside : index < maxCacheFilenameLen
    · rw [fileNameOf, fileNameOf, getElem?_countedPart _ inside, getElem?_countedPart _ inside]
      by_contra apart
      exact same ⟨index, inside, apart⟩
    · have after : ∀ name : List Char, (countedPart name)[index]? = none := fun name =>
        List.getElem?_eq_none ((length_countedPart_le name).trans (Nat.not_lt.mp inside))
      rw [fileNameOf, fileNameOf, after, after]
  · rintro ⟨index, inside, apart⟩ same
    rw [← getElem?_countedPart _ inside, ← getElem?_countedPart _ inside] at apart
    exact apart (congrArg (·[index]?) same)

/-- Last segments of up to a hundred characters that name something are told apart as they are. -/
theorem toldApart_of_short {hash : List Char → List Char} {url other : List Char}
    (named : ∀ given ∈ [url, other], lastSegment given ≠ [] ∧ lastSegment given ≠ ['.', '.'] ∧
      (lastSegment given).length ≤ maxCacheFilenameLen) :
    ToldApart hash url other ↔ lastSegment url ≠ lastSegment other := by
  have own : ∀ given ∈ [url, other], fileNameOf hash given = lastSegment given := by
    intro given member
    have ⟨present, plain, short⟩ := named given member
    rw [fileNameOf, ownName, if_neg (not_or.mpr ⟨present, plain⟩), countedPart_short short]
  rw [← fileNameOf_ne_iff, own url (by simp), own other (by simp)]

/-- The hash of a URL in text, of any 32 bytes that `GenerateHash` answers. -/
def hashName (generateHash : List Char → Block 32) (url : List Char) : List Char :=
  (DownloadedCache.SHA256Hasher.hashToString (generateHash url)).map fun digit =>
    Char.ofNat digit.toNat

/-- A direct child of `rootDir/1` whose name is the name of a file. -/
def DirectChild (rootDir path : List Char) : Prop :=
  ∃ name, path = rootDir ++ "/1/".toList ++ name ∧ name ≠ [] ∧
    name.length ≤ maxCacheFilenameLen ∧ name ≠ ['.'] ∧ name ≠ ['.', '.'] ∧
      ∀ char ∈ name, isSeparator char = false

theorem lastSegment_separator (url : List Char) :
    ∀ char ∈ lastSegment url, isSeparator char = false := by
  intro char inside
  have kept := List.mem_takeWhile_imp (List.mem_reverse.mp (List.takeWhile_subset _ inside))
  simpa using kept

theorem hashName_separator (generateHash : List Char → Block 32) (url : List Char) :
    ∀ char ∈ hashName generateHash url, isSeparator char = false := by
  have digits : ∀ digit : Fin 16, isSeparator (Char.ofNat
      (DownloadedCache.SHA256Hasher.hexDigit (UInt8.ofNat digit)).toNat) = false := by
    decide +kernel
  have checked {digit : UInt8} (small : digit.toNat < 16) : isSeparator (Char.ofNat
      (DownloadedCache.SHA256Hasher.hexDigit digit).toNat) = false := by
    simpa using digits ⟨digit.toNat, small⟩
  intro char inside
  obtain ⟨digit, member, rfl⟩ := List.mem_map.mp inside
  obtain ⟨byte, _, either⟩ := List.mem_flatMap.mp member
  have below := byte.toNat_lt
  rcases List.mem_pair.mp either with rfl | rfl
  · apply checked
    rw [UInt8.toNat_div]
    exact Nat.div_lt_of_lt_mul below
  · apply checked
    rw [UInt8.toNat_mod]
    exact Nat.mod_lt _ (by decide)

theorem length_hashName (generateHash : List Char → Block 32) (url : List Char) :
    (hashName generateHash url).length = 64 := by
  rw [hashName, DownloadedCache.SHA256Hasher.hashToString]
  simp [(generateHash url).length]

theorem countedPart_subset (name : List Char) : countedPart name ⊆ name := by
  have extension := (shortExtension_suffix name).subset
  intro char inside
  rw [countedPart] at inside
  split at inside
  · exact inside
  · rcases List.mem_append.mp inside with first | last
    · exact List.mem_of_mem_take first
    · exact extension last

/-- Only a URL whose last segment is "." gets a path that is not that of a file. -/
theorem getFilePath_child_iff (generateHash : List Char → Block 32) (rootDir url : List Char) :
    DirectChild rootDir (getFilePath (hashName generateHash) rootDir url) ↔
      lastSegment url ≠ ['.'] := by
  rw [getFilePath_eq]
  constructor
  · rintro ⟨name, path, _, _, current, _⟩ same
    have named := List.append_cancel_left path
    rw [fileNameOf, ownName, same] at named
    exact current named.symm
  · intro current
    refine ⟨_, rfl, ?_⟩
    rw [fileNameOf, ownName]
    split
    · rw [countedPart_short (by rw [length_hashName]; decide)]
      have length := length_hashName generateHash url
      refine ⟨?_, by rw [length]; decide, ?_, ?_, hashName_separator generateHash url⟩
      · exact List.ne_nil_of_length_pos (by omega)
      · intro same
        rw [same] at length
        cases length
      · intro same
        rw [same] at length
        cases length
    · rename_i plain
      rw [not_or] at plain
      have inside := fun char member =>
        lastSegment_separator url char (countedPart_subset _ member)
      rcases Nat.lt_or_ge maxCacheFilenameLen (lastSegment url).length with long | short
      · have length := length_countedPart_long long
        refine ⟨List.ne_nil_of_length_pos (by rw [length]; decide), length.le, ?_, ?_, inside⟩
        · intro same
          rw [same] at length
          cases length
        · intro same
          rw [same] at length
          cases length
      · rw [countedPart_short short] at inside ⊢
        exact ⟨plain.1, short, current, plain.2, inside⟩

theorem directory_url_not_child :
    ¬ DirectChild "/d".toList (getFilePath (hashName fun _ => ⟨List.replicate 32 0, rfl⟩)
      "/d".toList "http://a/.?k=1".toList) := by
  rintro ⟨name, path, _, _, current, _⟩
  have produced : getFilePath (hashName fun _ => ⟨List.replicate 32 0, rfl⟩) "/d".toList
      "http://a/.?k=1".toList = "/d".toList ++ "/1/".toList ++ ['.'] := by
    decide +kernel
  rw [produced] at path
  exact current (List.append_cancel_left path).symm

end Names

namespace AVDownloaderManager

def cacheDir (hash : List Char → List Char) (id : Nat) (manager : AVDownloaderManager) :
    List Char :=
  match manager.taskMap id with
  | none => []
  | some info => getDefaultCacheDir hash info.url

/-- The responses with the paths that `ParseSingleFile` gives to the resources. -/
def filed (hash : List Char → List Char) (rootDir : List Char) (results : ParseResults) :
    ParseResults :=
  results.map fun result => result.map fun resources => resources.map fun resource =>
    (resource.1, getFilePath hash rootDir resource.1, resource.2.2)

/-- The event with the paths that the code derives, in place of those it comes with. -/
def withPaths (hash : List Char → List Char) (manager : AVDownloaderManager)
    (event : ManagerEvent) : ManagerEvent :=
  match event with
  | .addDownloadTask url _ =>
    .addDownloadTask url (getFilePath hash (getDefaultCacheDir hash url) url)
  | .deliver id network sniff results =>
    .deliver id network sniff (filed hash (manager.cacheDir hash id) results)
  | event => event

/-- The step of the manager, with the paths of `GetFilePath`. -/
def nextWithPaths (hash : List Char → List Char) (manager : AVDownloaderManager)
    (event : ManagerEvent) : AVDownloaderManager :=
  manager.next (manager.withPaths hash event)

/-- Files of a task with different URLs have different paths. -/
def FilesApart (taskMap : Nat → Option AVDownloadTaskInfo) : Prop :=
  ∀ id info, taskMap id = some info → ∀ first ∈ info.fileList, ∀ second ∈ info.fileList,
    first.url ≠ second.url → first.filePath ≠ second.filePath

def PathsDerived (hash : List Char → List Char) (taskMap : Nat → Option AVDownloadTaskInfo) :
    Prop :=
  ∀ id info, taskMap id = some info → ∀ file ∈ info.fileList,
    file.filePath = getFilePath hash (getDefaultCacheDir hash info.url) file.url

/-- Different URLs of the list are told apart. -/
def NamedApart (hash : List Char → List Char) (list : List (List Char)) : Prop :=
  ∀ url ∈ list, ∀ other ∈ list, other ≠ url → ToldApart hash other url

/-- When a task completes, the URLs that the parser names are told apart from each other and from
the other URLs of the task. -/
def NamesNewFiles (hash : List Char → List Char) (manager : AVDownloaderManager)
    (event : ManagerEvent) : Prop :=
  ∀ id network sniff results info, event = .deliver id network sniff results →
    manager.arriving id = some .completed → manager.taskMap id = some info →
      manager.downloaderMap id = true → ∀ url ∈ offered (responses sniff results info),
        ∀ other ∈ urls info ++ offered (responses sniff results info), other ≠ url →
          ToldApart hash other url

variable {manager : AVDownloaderManager} {event : ManagerEvent} {hash : List Char → List Char}
  {sniff : Sniff} {results : ParseResults} {info : AVDownloadTaskInfo} {id : Nat}

variable (rootDir : List Char)

theorem filed_responses (sniff : Sniff) (results : ParseResults) (info : AVDownloadTaskInfo) :
    responses sniff (filed hash rootDir results) info =
      filed hash rootDir (responses sniff results info) := by
  rw [responses, filed, ← List.map_take]
  rfl

theorem named_filed (results : ParseResults) :
    named (filed hash rootDir results) = (named results).map fun resource =>
      (resource.1, getFilePath hash rootDir resource.1, resource.2.2) := by
  induction results with
  | nil => rfl
  | cons result rest ih =>
    cases result with
    | none => exact ih
    | some resources =>
      have first : named (filed hash rootDir (some resources :: rest)) =
          resources.map (fun resource =>
            (resource.1, getFilePath hash rootDir resource.1, resource.2.2)) ++
          named (filed hash rootDir rest) := rfl
      rw [first, ih, ← List.map_append]
      rfl

theorem offered_filed (results : ParseResults) :
    offered (filed hash rootDir results) = offered results := by
  rw [offered, named_filed, List.map_map]
  rfl

theorem withPaths_added {url filePath : List Char}
    (adds : manager.withPaths hash event = .addDownloadTask url filePath) :
    filePath = getFilePath hash (getDefaultCacheDir hash url) url := by
  cases event with
  | addDownloadTask given _ =>
    simp only [withPaths, ManagerEvent.addDownloadTask.injEq] at adds
    rw [← adds.1, ← adds.2]
  | deliver | _ => cases adds

theorem withPaths_delivers {network : NetConnType}
    (delivers : manager.withPaths hash event = .deliver id network sniff results) :
    ∃ given, event = .deliver id network sniff given ∧
      results = filed hash (manager.cacheDir hash id) given := by
  cases event with
  | deliver other link found given =>
    obtain ⟨rfl, rfl, rfl, rfl⟩ := delivers
    exact ⟨given, rfl, rfl⟩
  | addDownloadTask | _ => cases delivers

theorem completedInfo_withPaths :
    urls (manager.completedInfo id sniff (filed hash rootDir results) info) = urls info ++
      if manager.downloaderMap id then offered (responses sniff results info) else [] := by
  rw [completedInfo_urls, filed_responses, offered_filed]

theorem pathsDerived_next (event : ManagerEvent)
    (derived : PathsDerived hash manager.taskMap) :
    PathsDerived hash (manager.nextWithPaths hash event).taskMap := by
  apply each_next derived
  · intro url filePath adds file member
    rw [List.mem_singleton.mp member]
    exact withPaths_added adds
  · intro state info kept
    exact kept
  · intro id network sniff results info delivers arrives found
    obtain ⟨given, _, rfl⟩ := withPaths_delivers delivers
    rw [completedInfo_url]
    have root : manager.cacheDir hash id = getDefaultCacheDir hash info.url := by
      rw [cacheDir, found]
    have places := @completedInfo_added manager _ (fun file => (file.url, file.filePath))
      (fun _ _ => rfl) (fun _ _ => rfl) id sniff (filed hash (manager.cacheDir hash id) given) info
    intro file member
    have place : (file.url, file.filePath) ∈
        (manager.completedInfo id sniff (filed hash (manager.cacheDir hash id) given)
          info).fileList.map fun file => (file.url, file.filePath) := List.mem_map_of_mem member
    rw [places, List.mem_append] at place
    rcases place with old | new
    · obtain ⟨was, listed, same⟩ := List.mem_map.mp old
      rw [Prod.mk.injEq] at same
      rw [← same.1, ← same.2]
      exact derived id info found was listed
    · split at new
      · rw [filed_responses, named_filed, root, List.map_map] at new
        obtain ⟨resource, _, same⟩ := List.mem_map.mp new
        simp only [Function.comp_apply, fileOf, Prod.mk.injEq] at same
        rw [← same.1, ← same.2]
      · cases new

theorem filesApart_iff (derived : PathsDerived hash manager.taskMap) :
    FilesApart manager.taskMap ↔
      ∀ id info, manager.taskMap id = some info → NamedApart hash (urls info) := by
  have path : ∀ id info, manager.taskMap id = some info → ∀ first ∈ info.fileList,
      ∀ second ∈ info.fileList, first.filePath ≠ second.filePath ↔
        ToldApart hash first.url second.url := by
    intro id info found first member second listed
    rw [derived id info found first member, derived id info found second listed, getFilePath_eq,
      getFilePath_eq, Ne, List.append_cancel_left_eq]
    exact fileNameOf_ne_iff
  constructor
  · intro apart id info found url member other listed different
    obtain ⟨first, inside, rfl⟩ := List.mem_map.mp member
    obtain ⟨second, within, rfl⟩ := List.mem_map.mp listed
    rw [← path id info found second within first inside]
    exact apart id info found second within first inside different
  · intro apart id info found first member second listed different
    rw [path id info found first member second listed]
    exact apart id info found second.url (List.mem_map_of_mem listed) first.url
      (List.mem_map_of_mem member) different

theorem namedApart_append {old new : List (List Char)} (apart : NamedApart hash old) :
    NamedApart hash (old ++ new) ↔ ∀ url ∈ new, ∀ other ∈ old ++ new, other ≠ url →
      ToldApart hash other url := by
  constructor
  · intro all url member other listed different
    exact all url (List.mem_append_right old member) other listed different
  intro news url member other listed different
  rcases List.mem_append.mp member with was | new
  · rcases List.mem_append.mp listed with wasOther | newOther
    · exact apart url was other wasOther different
    · have told := fileNameOf_ne_iff.mpr (news other newOther url member different.symm)
      exact fileNameOf_ne_iff.mp told.symm
  · exact news url new other listed different

/-- The steps that keep the files apart are exactly those in which the new names are apart. -/
theorem filesApart_next_iff (derived : PathsDerived hash manager.taskMap)
    (apart : FilesApart manager.taskMap) :
    FilesApart (manager.nextWithPaths hash event).taskMap ↔ NamesNewFiles hash manager event := by
  rw [filesApart_iff derived] at apart
  rw [filesApart_iff (pathsDerived_next event derived)]
  constructor
  · intro kept id network sniff results info delivers arrives found known
    rw [← namedApart_append (apart id info found)]
    subst delivers
    have completed := kept id (manager.completedInfo id sniff
      (filed hash (manager.cacheDir hash id) results) info) (by
        rw [nextWithPaths, withPaths, taskMap_completed network arrives, Function.update_self,
          found, Option.map_some])
    rw [completedInfo_withPaths, if_pos known] at completed
    exact completed
  · intro names
    apply each_next apart
    · intro url filePath _ other member same listed different
      rw [List.mem_singleton.mp member, List.mem_singleton.mp listed] at different
      exact absurd rfl different
    · intro state info kept
      exact kept
    · intro id network sniff results info delivers arrives found
      obtain ⟨given, delivered, rfl⟩ := withPaths_delivers delivers
      rw [completedInfo_withPaths]
      by_cases known : manager.downloaderMap id = true
      · rw [if_pos known, namedApart_append (apart id info found)]
        exact names id network sniff given info delivered arrives found known
      · rw [if_neg known, List.append_nil]
        exact apart id info found

/-- The files of every task are apart exactly in the runs in which the URLs that a playlist
names are told apart by what is kept of them. -/
theorem files_apart (hash : List Char → List Char) (events : List ManagerEvent) :
    (∀ count, FilesApart (run (nextWithPaths hash) {} (events.take count)).taskMap) ↔
      Along (nextWithPaths hash) (NamesNewFiles hash) {} events := by
  have nothing : PathsDerived hash (taskMap {}) ∧ FilesApart (taskMap {}) :=
    ⟨fun _ _ found => (by cases found), fun _ _ found => (by cases found)⟩
  have derived : ∀ events, PathsDerived hash (run (nextWithPaths hash) {} events).taskMap := by
    intro events
    exact invariant_of_run (fun manager : AVDownloaderManager => PathsDerived hash manager.taskMap)
      (fun _ event derived => pathsDerived_next event derived) events nothing.1
  rw [← always_iff_along
    (fun manager => PathsDerived hash manager.taskMap ∧ FilesApart manager.taskMap)
    (fun manager event both => by
      rw [and_iff_right (pathsDerived_next event both.1)]
      exact filesApart_next_iff both.1 both.2) nothing]
  constructor
  · intro always count
    exact ⟨derived _, always count⟩
  · intro always count
    exact (always count).2

/-- The SHA-256 of `taskUrl`, in hexadecimal. -/
def sampleHash : List Char → List Char := fun _ =>
  "1972c518da8e66a8782803107e4661595e4af1727c3c6087beaa9755ea3fc684".toList

/-- A playlist names segments of the same name in two directories. -/
def twoDirectories : ManagerEvent :=
  .deliver 0 .wifi (some true)
    [some [("http://a/1/s.ts".toList, [], false), ("http://a/2/s.ts".toList, [], false)]]

theorem segments_share_file :
    ¬ FilesApart (run (nextWithPaths sampleHash) {}
      (downloadedTask ++ [twoDirectories])).taskMap := by
  have shared : ∃ info ∈ (run (nextWithPaths sampleHash) {}
      (downloadedTask ++ [twoDirectories])).taskMap 0, ∃ first ∈ info.fileList,
        ∃ second ∈ info.fileList, first.url ≠ second.url ∧ first.filePath = second.filePath := by
    decide +kernel
  obtain ⟨info, found, first, member, second, listed, different, same⟩ := shared
  intro apart
  exact apart 0 info found first member second listed different same

end AVDownloaderManager

end PlayerFramework.Downloader
