import Shortlist.Proofs.Library.Scan
/-! Following the changes of a folder one file at a time. While the documents stay coherent, the
installed plans are after each change those that a new library would install. -/
namespace Shortlist
open Library

/-! ### What is told of a change -/

/-- The events name the paths of the change and no others, in any order and any number, and none
tells that a file was removed which is there. -/
structure FileChange.ToldBy (c : FileChange) (after : Files) (es : List FileEvent) : Prop where
  about : ∀ e ∈ es, ∀ p ∈ e.paths, p ∈ c.paths
  all : ∀ p ∈ c.paths, ∃ e ∈ es, p ∈ e.paths ∧ e.kind ≠ .other
  gone : ∀ e ∈ es, e.kind = .removed → ∀ p ∈ e.paths, after.holds p = false

theorem FileEventKind.exists_visit? {kind : FileEventKind} (h : kind ≠ .other) (fs : Files)
    {p : Path} (hfollow : Plans.follows p = true) :
    ∃ v, kind.visit? fs p = some v ∧ v.path = p := by
  by_cases hload : kind.loads = true ∧ fs.holds p = true
  · exact ⟨.load fs p, visit?_eq_some.mpr ⟨hfollow, .inl ⟨hload.1, hload.2, rfl⟩⟩, rfl⟩
  · refine ⟨.withdraw p, visit?_eq_some.mpr ⟨hfollow, .inr ⟨?_, rfl⟩⟩, rfl⟩
    cases kind with
    | created => simpa [loads] using hload
    | written => simpa [loads] using hload
    | renamed => simpa [loads] using hload
    | removed => exact .inl rfl
    | other => exact absurd rfl h

namespace Plans

/-- The events are handled one after another, on the files as they are by then. -/
def handleAll (plans : Plans) (fs : Files) (es : List FileEvent) : Plans :=
  es.foldl (fun plans e => plans.handle fs e) plans

/-- The files that several events are about, in the order in which they are visited. -/
def visitsOf (fs : Files) (es : List FileEvent) : List Visit :=
  es.flatMap fun e => e.paths.filterMap (e.kind.visit? fs)

theorem handleAll_eq_visitAll (plans : Plans) (fs : Files) (es : List FileEvent) :
    plans.handleAll fs es = plans.visitAll (visitsOf fs es) := by
  induction es generalizing plans with
  | nil => rfl
  | cons e es ih =>
      have hhead : plans.handleAll fs (e :: es) = (plans.handle fs e).handleAll fs es := rfl
      rw [hhead, ih, handle_eq_visitAll, ← visitAll_append]
      rfl

end Plans

namespace FileChange
variable {folder : Path} {fs : Files} {c : FileChange} {es : List FileEvent}

theorem ToldBy.fits (told : c.ToldBy (fs.apply c) es) (one : c.OfOneFile folder fs) :
    ∀ v ∈ Plans.visitsOf (fs.apply c) es, v.Fits folder (fs.apply c) := by
  intro v hv
  obtain ⟨e, he, hv⟩ := List.mem_flatMap.mp hv
  obtain ⟨p, hp, hv⟩ := List.mem_filterMap.mp hv
  have hmem := told.about e he p hp
  obtain ⟨hfollow, ⟨-, hheld, rfl⟩ | ⟨hkind, rfl⟩⟩ := FileEventKind.visit?_eq_some.mp hv
  · exact ⟨rfl, mem_documents.mpr ⟨one.covers hmem, hfollow, one.file?_of_holds hmem hheld⟩⟩
  · have hgone : (fs.apply c).holds p = false := by
      cases hkind with
      | inl hremoved => exact told.gone e he hremoved p hp
      | inr hmissing => exact hmissing.2
    intro hdocument
    obtain ⟨-, -, hfile⟩ := mem_documents.mp hdocument
    rw [Files.holds_of_file? hfile] at hgone
    cases hgone

theorem ToldBy.visits (told : c.ToldBy (fs.apply c) es) {p : Path} (hp : p ∈ c.paths)
    (hfollow : Plans.follows p = true) : ∃ v ∈ Plans.visitsOf (fs.apply c) es, p = v.path := by
  obtain ⟨e, he, hpath, hkind⟩ := told.all p hp
  obtain ⟨v, hv, hvp⟩ := FileEventKind.exists_visit? hkind (fs.apply c) hfollow
  exact ⟨v, List.mem_flatMap.mpr ⟨e, he, List.mem_filterMap.mpr ⟨p, hpath, hv⟩⟩, hvp.symm⟩

/-- A document that the change is not about is what it was. -/
theorem OfOneFile.servedBy_iff (one : c.OfOneFile folder fs) {l : LoadedPlan}
    (hl : l.path ∉ c.paths) : l.ServedBy folder (fs.apply c) ↔ l.ServedBy folder fs := by
  have hfile := one.file?_eq hl
  have hcompile : (fs.apply c).compileFile l.path = fs.compileFile l.path :=
    Files.compileFile_congr hfile
  have hlisted : l.path ∈ documents folder (fs.apply c) ↔ l.path ∈ documents folder fs := by
    rw [mem_documents, mem_documents, hfile]
  constructor
  · rintro ⟨listed, compiled, enabled⟩
    exact ⟨hlisted.mp listed, hcompile ▸ compiled, enabled⟩
  · rintro ⟨listed, compiled, enabled⟩
    exact ⟨hlisted.mpr listed, hcompile ▸ compiled, enabled⟩

end FileChange

namespace Plans
variable {plans : Plans} {folder : Path} {fs : Files} {c : FileChange} {es : List FileEvent}

/-- Right after a change of one file the plans are out of date at its paths only. -/
theorem UpToDate.pending (up : plans.UpToDate folder fs) (one : c.OfOneFile folder fs) :
    plans.UpToDateBut folder (fs.apply c) fun q => q ∈ c.paths ∧ follows q = true := by
  have follow : ∀ {fs' : Files} {l : LoadedPlan}, l.ServedBy folder fs' → follows l.path = true :=
    fun served => (mem_documents.mp served.listed).2.1
  constructor
  · intro id l hl
    obtain ⟨hid, served⟩ := up.entry id l hl
    have served := served.resolve_right not_false
    refine ⟨hid, ?_⟩
    by_cases hpath : l.path ∈ c.paths
    · exact .inr ⟨hpath, follow served⟩
    · exact .inl ((one.servedBy_iff hpath).mpr served)
  · intro l served
    by_cases hpath : l.path ∈ c.paths
    · exact .inr ⟨hpath, follow served⟩
    · exact .inl ((up.found l ((one.servedBy_iff hpath).mp served)).resolve_right not_false)

theorem UpToDate.handleAll (up : plans.UpToDate folder fs) (one : c.OfOneFile folder fs)
    (told : c.ToldBy (fs.apply c) es) (coherent : (fs.apply c).Coherent folder) :
    (plans.handleAll (fs.apply c) es).UpToDate folder (fs.apply c) := by
  rw [handleAll_eq_visitAll]
  apply ((up.pending one).visitAll coherent (told.fits one)).imp
  rintro q ⟨⟨hpath, hfollow⟩, hvisited⟩
  obtain ⟨v, hv, hq⟩ := told.visits hpath hfollow
  exact hvisited v hv hq

end Plans

namespace Library

theorem foldl_observe {l : Library} (watching : l.watching = true) (fs : Files)
    (es : List FileEvent) :
    es.foldl (fun l e => l.observe fs e) l = { l with plans := l.plans.handleAll fs es } := by
  induction es generalizing l with
  | nil => rfl
  | cons e es ih =>
      have first : l.observe fs e = { l with plans := l.plans.handle fs e } := by
        simp only [observe, watching, if_true]
      rw [List.foldl_cons, first, ih (l := { l with plans := l.plans.handle fs e }) watching]
      rfl

/-- A library that watches misses nothing that it is told. -/
theorem observe_upToDate {l : Library} {fs : Files} {c : FileChange} {es : List FileEvent}
    (watching : l.watching = true) (up : l.plans.UpToDate l.folder fs)
    (one : c.OfOneFile l.folder fs) (told : c.ToldBy (fs.apply c) es)
    (coherent : (fs.apply c).Coherent l.folder) :
    (es.foldl (fun l e => l.observe (fs.apply c) e) l).plans.UpToDate l.folder (fs.apply c) := by
  rw [foldl_observe watching]
  exact up.handleAll one told coherent

end Library

/-! ### Histories -/

/-- A change and the events that tell of it. -/
structure ToldChange where
  change : FileChange
  told : List FileEvent

namespace ToldChange

/-- The files after several changes. -/
def filesAfter (fs : Files) (cs : List ToldChange) : Files :=
  cs.foldl (fun fs c => fs.apply c.change) fs

/-- Each change is of one file, is told of before the next, and leaves coherent documents. -/
def Orderly (folder : Path) (fs : Files) : List ToldChange → Prop
  | [] => True
  | c :: cs => c.change.OfOneFile folder fs ∧ c.change.ToldBy (fs.apply c.change) c.told ∧
      (fs.apply c.change).Coherent folder ∧ Orderly folder (fs.apply c.change) cs

theorem Orderly.prefix {folder : Path} {fs : Files} {done rest : List ToldChange}
    (h : Orderly folder fs (done ++ rest)) : Orderly folder fs done := by
  induction done generalizing fs with
  | nil => trivial
  | cons c done ih =>
      obtain ⟨one, told, coherent, hrest⟩ := h
      exact ⟨one, told, coherent, ih hrest⟩

end ToldChange

namespace Plans
open ToldChange

/-- The plans after the events of several changes, each handled before the next change. -/
def keepUp (plans : Plans) (fs : Files) : List ToldChange → Plans
  | [] => plans
  | c :: cs => (plans.handleAll (fs.apply c.change) c.told).keepUp (fs.apply c.change) cs

theorem UpToDate.keepUp {plans : Plans} {folder : Path} {fs : Files} {cs : List ToldChange}
    (up : plans.UpToDate folder fs) (coherent : fs.Coherent folder)
    (orderly : Orderly folder fs cs) :
    (filesAfter fs cs).Coherent folder ∧
      (plans.keepUp fs cs).UpToDate folder (filesAfter fs cs) := by
  induction cs generalizing plans fs with
  | nil => exact ⟨coherent, up⟩
  | cons c cs ih =>
      obtain ⟨one, told, after, hrest⟩ := orderly
      exact ih (up.handleAll one told after) after hrest

/-- Whatever happens to single files, after each change the plans of a library that has followed
since its first scan are the plans of a new library after its own first scan. -/
theorem keepUp_scanned {folder : Path} {fs : Files} {done rest : List ToldChange}
    (coherent : fs.Coherent folder) (orderly : Orderly folder fs (done ++ rest)) :
    (scanned folder fs).keepUp fs done = scanned folder (filesAfter fs done) := by
  obtain ⟨after, up⟩ := (scanned_upToDate coherent).keepUp coherent orderly.prefix
  exact up.unique (scanned_upToDate after)

/-- A document with one rule, which is disabled. -/
def searchText : String :=
  "[\"v1\",\"FilterConfig\",[\"search\",\"Search\",null,null,false],[[\"banned\",\"item\",\"is_null\"]]]"

def searchPlan (p : Path) : LoadedPlan :=
  { metadata := { id := "search", name := "Search", enabled := false }, path := p
    plan := { itemRules := [.presence false "banned" .item] } }

theorem compileFile_search {fs : Files} {p : Path} (hfile : fs.file? p = some searchText.toUTF8)
    (hformat : p.format? = some .json) : fs.compileFile p = .ok (searchPlan p) := by
  have hparse : Document.parse? .json searchText =
      some
        { apiVersion := "v1", kind := "FilterConfig"
          metadata := { id := "search", name := "Search", enabled := false }
          filters := [.presence .item "banned" "is_null"] } := by
    cbv
  exact Files.compileFile_of_text hfile hformat hparse rfl (by decide) rfl

theorem coherent_home_search {fs : Files} {home search : Path} (hhome : home.format? = some .json)
    (hsearch : search.format? = some .json)
    (files : ∀ q, (fs.file? q).isSome → q = home ∧ fs.file? q = some homeText.toUTF8 ∨
      q = search ∧ fs.file? q = some searchText.toUTF8) : fs.Coherent shelfFolder := by
  have known : ∀ q ∈ documents shelfFolder fs, q = home ∧ fs.compileFile q = .ok (homePlan q) ∨
      q = search ∧ fs.compileFile q = .ok (searchPlan q) := by
    intro q hq
    obtain ⟨-, -, hfile⟩ := mem_documents.mp hq
    obtain ⟨rfl, hq⟩ | ⟨rfl, hq⟩ := files q hfile
    · exact .inl ⟨rfl, Files.compileFile_home hq hhome⟩
    · exact .inr ⟨rfl, compileFile_search hq hsearch⟩
  constructor
  · intro q hq
    obtain ⟨-, h⟩ | ⟨-, h⟩ := known q hq
    · exact ⟨_, h⟩
    · exact ⟨_, h⟩
  · intro p hp q hq l l' hl hl' hid
    obtain ⟨rfl, h⟩ | ⟨rfl, h⟩ := known p hp
    · obtain ⟨rfl, -⟩ | ⟨rfl, h'⟩ := known q hq
      · rfl
      · cases h.symm.trans hl
        cases h'.symm.trans hl'
        simp [homePlan, searchPlan] at hid
    · obtain ⟨rfl, h'⟩ | ⟨rfl, -⟩ := known q hq
      · cases h.symm.trans hl
        cases h'.symm.trans hl'
        simp [homePlan, searchPlan] at hid
      · rfl

def feedFile : Path := .ofText "f/feed.json"

def newsFile : Path := .ofText "f/news.json"

def shelf : Files :=
  (((∅ : Files).insert shelfFolder .folder).insert feedFile (.file homeText.toUTF8)).insert newsFile
    (.file searchText.toUTF8)

/-- One file is moved onto the other, and the document that this overwrote is written anew under
the name that has become free. So the two documents change places. -/
def exchange : List ToldChange :=
  [⟨.move feedFile newsFile, [⟨.renamed, [newsFile, feedFile]⟩]⟩,
    ⟨.write feedFile searchText.toUTF8, [⟨.created, [feedFile]⟩, ⟨.written, [feedFile]⟩]⟩]

theorem getElem?_shelf (q : Path) : shelf[q]? =
    if q = newsFile then some (.file searchText.toUTF8)
    else if q = feedFile then some (.file homeText.toUTF8)
    else if q = shelfFolder then some .folder else none := by
  simp only [shelf, Std.ExtTreeMap.getElem?_insert, Std.LawfulEqCmp.compare_eq_iff_eq,
    Std.ExtTreeMap.getElem?_empty, eq_comm (a := q)]

theorem file?_shelf (q : Path) : shelf.file? q =
    if q = newsFile then some searchText.toUTF8
    else if q = feedFile then some homeText.toUTF8 else none := by
  rw [Files.file?, getElem?_shelf]
  split_ifs <;> rfl

theorem listed_feedFile : covers shelfFolder feedFile = true ∧ Plans.follows feedFile = true ∧
    feedFile.format? = some .json := by decide +kernel

theorem listed_newsFile : covers shelfFolder newsFile = true ∧ Plans.follows newsFile = true ∧
    newsFile.format? = some .json := by decide +kernel

theorem feedFile_ne_newsFile : feedFile ≠ newsFile := by decide +kernel

theorem coherent_shelf : shelf.Coherent shelfFolder := by
  apply coherent_home_search listed_feedFile.2.2 listed_newsFile.2.2
  intro q hq
  rw [file?_shelf] at hq ⊢
  split_ifs at hq ⊢ with h h' <;> simp_all

theorem scanned_shelf : (scanned shelfFolder shelf)["home"]? = some (homePlan feedFile) := by
  obtain ⟨hcovers, hfollow, hformat⟩ := listed_feedFile
  refine scanned_eq_some coherent_shelf (servedBy_home ?_ hcovers hfollow hformat)
  rw [file?_shelf, if_neg feedFile_ne_newsFile, if_pos rfl]

theorem move_feedFile : (FileChange.move feedFile newsFile).OfOneFile shelfFolder shelf := by
  refine ⟨listed_feedFile.1, listed_newsFile.1, feedFile_ne_newsFile, ?_, ?_⟩
  · rw [file?_shelf, if_neg feedFile_ne_newsFile, if_pos rfl]
    rfl
  · intro r hheld hunder
    rw [Std.ExtTreeMap.contains_eq_isSome_getElem?, getElem?_shelf] at hheld
    split_ifs at hheld with hnews hfeed hfolder
    · exact absurd hunder (by rw [hnews]; decide +kernel)
    · exact hfeed
    · exact absurd hunder (by rw [hfolder]; decide +kernel)
    · cases hheld

theorem file?_shelf_moved (q : Path) : (shelf.apply (.move feedFile newsFile)).file? q =
    if q = newsFile then some homeText.toUTF8 else none := by
  obtain ⟨-, -, hne, hfile, alone⟩ := move_feedFile
  rw [Files.file?_move hfile alone, file?_shelf, file?_shelf, if_neg hne, if_pos rfl]
  split_ifs <;> rfl

theorem file?_exchanged (q : Path) : (filesAfter shelf exchange).file? q =
    if q = feedFile then some searchText.toUTF8
    else if q = newsFile then some homeText.toUTF8 else none := by
  rw [filesAfter, exchange, List.foldl, List.foldl, List.foldl, Files.file?_write,
    file?_shelf_moved]

theorem coherent_exchanged : (filesAfter shelf exchange).Coherent shelfFolder := by
  apply coherent_home_search listed_newsFile.2.2 listed_feedFile.2.2
  intro q hq
  rw [file?_exchanged] at hq ⊢
  split_ifs at hq ⊢ with h h' <;> simp_all

theorem orderly_exchange : Orderly shelfFolder shelf exchange := by
  have moved : (shelf.apply (.move feedFile newsFile)).Coherent shelfFolder := by
    apply coherent_home_search listed_newsFile.2.2 listed_feedFile.2.2
    intro q hq
    rw [file?_shelf_moved] at hq ⊢
    split_ifs at hq ⊢ with h <;> simp_all
  refine ⟨move_feedFile, ⟨?_, ?_, ?_⟩, moved, listed_feedFile.1, ⟨?_, ?_, ?_⟩, coherent_exchanged,
    trivial⟩
  all_goals simp [FileChange.paths]

theorem keepUp_exchange :
    shelf.Coherent shelfFolder ∧ Orderly shelfFolder shelf (exchange ++ []) ∧
      (scanned shelfFolder shelf).keepUp shelf exchange = scanned shelfFolder (filesAfter shelf exchange) ∧
      (scanned shelfFolder shelf)["home"]? = some (homePlan feedFile) ∧
      (scanned shelfFolder (filesAfter shelf exchange))["home"]? = some (homePlan newsFile) := by
  have orderly : Orderly shelfFolder shelf (exchange ++ []) := by
    rw [List.append_nil]
    exact orderly_exchange
  have after : (homePlan newsFile).ServedBy shelfFolder (filesAfter shelf exchange) := by
    obtain ⟨hcovers, hfollow, hformat⟩ := listed_newsFile
    refine servedBy_home ?_ hcovers hfollow hformat
    rw [file?_exchanged, if_neg feedFile_ne_newsFile.symm, if_pos rfl]
  exact ⟨coherent_shelf, orderly, keepUp_scanned coherent_shelf orderly, scanned_shelf,
    scanned_eq_some coherent_exchanged after⟩

end Plans
end Shortlist
