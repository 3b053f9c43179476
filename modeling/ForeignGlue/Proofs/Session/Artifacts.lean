/-
**Generation into a directory.**

Where a path opens on a place (`Directory.Opens`), the file of the path is written at that place and
nowhere else, so that no folder comes or goes and every path leads where it led before
(`Directory.Opens.set`). The files of one module open on places of their own
(`Directory.Opens.ne_of_suffix_ne`).

* `Generator.runOn_generateTo`: what generation leaves in a directory, step by step;
* `Generator.generateTo_follows_generate`: the result is that of generation without a directory; the
  directory then holds the three artifacts, or those that were complete before the error.
-/

import ForeignGlue.Proofs.Outcome
import ForeignGlue.Proofs.ScalarIndex.Saving
import ForeignGlue.Proofs.Session.Files

namespace ForeignGlue

open ForeignGlue.Text

/-! ### Writing at a place -/

namespace Directory

variable {directory : Directory} {place other : List String} {entry : Entry} {path text : String}

/-- All other places are as they were. -/
theorem find?_set_of_ne (differ : other ≠ place) :
    ((directory.set place entry).entries.find? fun existing => existing.1 == other) =
      directory.entries.find? fun existing => existing.1 == other := by
  have apart : (place == other) = false := beq_eq_false_iff_ne.mpr (Ne.symm differ)
  by_cases there : directory.entries.any fun existing => existing.1 == place
  · rw [set, if_pos there]
    show (directory.entries.map fun existing =>
      if existing.1 == place then (place, entry) else existing).find? _ = _
    induction directory.entries with
    | nil => rfl
    | cons head entries ih =>
        by_cases same : head.1 = place
        · have skipped : (head.1 == other) = false := by rw [same, apart]
          rw [List.map_cons, if_pos (beq_iff_eq.mpr same), List.find?_cons, List.find?_cons, apart,
            skipped]
          exact ih
        · rw [List.map_cons, if_neg (by rwa [beq_iff_eq]), List.find?_cons, List.find?_cons, ih]
  · rw [set, if_neg there]
    show (directory.entries ++ [(place, entry)]).find? _ = _
    rw [List.find?_append, List.find?_singleton, apart]
    exact Option.or_none

/-- A place that is not the directory itself or above it. -/
theorem get?_set (below : place.all isUp = false) :
    (directory.set place entry).get? other =
      if other = place then some entry else directory.get? other := by
  by_cases same : other = place
  · rw [if_pos same, same, get?, below, find?_set]
    rfl
  · rw [if_neg same, get?, get?, find?_set_of_ne same]

/-- What is written last counts. -/
theorem set_set (first second : Entry) :
    (directory.set place first).set place second = directory.set place second := by
  by_cases there : directory.entries.any fun existing => existing.1 == place
  · have still : (directory.set place first).entries.any fun existing => existing.1 == place :=
      List.any_eq_true.mpr ⟨_, List.mem_of_find?_eq_some (find?_set place first), beq_self_eq_true _⟩
    rw [set, if_pos still, set, set, if_pos there, if_pos there]
    show Directory.mk ((directory.entries.map _).map _) = Directory.mk (directory.entries.map _)
    rw [List.map_map]
    congr 1
    refine List.map_congr_left fun existing _ => ?_
    by_cases same : existing.1 = place
    · simp [same]
    · simp [same]
  · have absent : ∀ existing ∈ directory.entries, (existing.1 == place) = false := by
      intro existing member
      by_contra same
      exact there (List.any_eq_true.mpr ⟨existing, member, by simpa using same⟩)
    have kept : directory.entries.map (fun existing =>
        if existing.1 == place then (place, second) else existing) = directory.entries := by
      refine (List.map_congr_left fun existing member => ?_).trans (List.map_id _)
      rw [absent existing member]
      rfl
    have still : (directory.set place first).entries.any fun existing => existing.1 == place :=
      List.any_eq_true.mpr ⟨_, List.mem_of_find?_eq_some (find?_set place first), beq_self_eq_true _⟩
    rw [set, if_pos still, set, set, if_neg there, if_neg there]
    show Directory.mk ((directory.entries ++ [(place, first)]).map _) = Directory.mk _
    rw [List.map_append, kept, List.map_singleton, beq_self_eq_true]
    rfl

/-- Only a place below the directory can be without a folder. -/
theorem all_isUp_of_isFolder (free : directory.isFolder place = false) :
    place.all isUp = false := by
  by_contra above
  rw [Bool.not_eq_false] at above
  rw [isFolder, get?, if_pos above] at free
  exact absurd free (by decide)

/-- **A file where no folder stands** makes no folder and takes none away. -/
theorem isFolder_set_file (free : directory.isFolder place = false) :
    (directory.set place (.file text)).isFolder other = directory.isFolder other := by
  have below := all_isUp_of_isFolder free
  by_cases same : other = place
  · subst same
    rw [free, isFolder, get?_set below, if_pos rfl]
    rfl
  · rw [isFolder, get?_set below, if_neg same, isFolder]

/-- A file that is written is no folder, so ways through folders are the same. -/
theorem resolve_set_file (free : directory.isFolder place = false) :
    (directory.set place (.file text)).resolve path = directory.resolve path := by
  have steps : (directory.set place (.file text)).step = directory.step := by
    funext start name
    rw [step, step, isFolder_set_file free]
  rw [resolve, resolve, steps]

/-! ### Paths that open -/

/-- **A path that opens on a place**: a file can be written there under it. -/
structure Opens (directory : Directory) (path : String) (place : List String) : Prop where
  ofFile : isFolderPath path = false
  leads : directory.resolve path = some place
  free : directory.isFolder place = false
  held : directory.isFolder (parent place) = true

/-- **When a file can be written**: its path opens at a place. -/
theorem write?_eq_some_iff {after : Directory} :
    directory.write? path text = some after ↔
      ∃ place, directory.Opens path place ∧ after = directory.set place (.file text) := by
  constructor
  · intro written
    by_cases folder : isFolderPath path = true
    · rw [write?, if_pos folder] at written
      cases written
    rw [write?, if_neg folder] at written
    obtain ⟨place, leads, written⟩ := Option.bind_eq_some_iff.mp written
    by_cases refused : (directory.isFolder place || !directory.isFolder (parent place)) = true
    · rw [if_pos refused] at written
      cases written
    rw [if_neg refused, Option.some.injEq] at written
    rw [Bool.or_eq_true, not_or, Bool.not_eq_true, Bool.not_eq_true, Bool.not_eq_false'] at refused
    exact ⟨place, ⟨Bool.not_eq_true _ ▸ folder, leads, refused.1, refused.2⟩, written.symm⟩
  · rintro ⟨place, opens, same⟩
    rw [write?, opens.ofFile, opens.leads, same]
    show (if (directory.isFolder place || !directory.isFolder (parent place)) = true then none
      else some (directory.set place (.file text))) = _
    rw [opens.free, opens.held]
    rfl

namespace Opens

variable (opens : directory.Opens path place)
include opens

theorem write? (text : String) :
    directory.write? path text = some (directory.set place (.file text)) :=
  write?_eq_some_iff.mpr ⟨place, opens, rfl⟩

/-- A path opens as before after a file is written at a place without a folder. -/
theorem set (free : directory.isFolder other = false) (text : String) :
    (directory.set other (.file text)).Opens path place where
  ofFile := opens.ofFile
  leads := by rw [resolve_set_file free, opens.leads]
  free := by rw [isFolder_set_file free, opens.free]
  held := by rw [isFolder_set_file free, opens.held]

theorem get?_set (text : String) (other : List String) :
    (directory.set place (.file text)).get? other =
      if other = place then some (.file text) else directory.get? other :=
  Directory.get?_set (all_isUp_of_isFolder opens.free)

/-- What stands at the place of a path is read through it. -/
theorem read?_of_get? (there : directory.get? place = some (.file text)) :
    directory.read? path = some text := by
  rw [read?, opens.ofFile, opens.leads, if_neg Bool.false_ne_true, Option.bind_some, there]

/-- Text is added behind what was written. -/
theorem append?_set (text more : String) :
    (directory.set place (.file text)).append? path more =
      some (directory.set place (.file (text ++ more))) := by
  have opensAfter := opens.set opens.free text
  have there : (directory.set place (.file text)).get? place = some (.file text) := by
    rw [opens.get?_set, if_pos rfl]
  rw [append?, opensAfter.read?_of_get? there, Option.bind_eq_bind, Option.bind_some,
    opensAfter.write?, set_set]

end Opens

/-! ### The files of one module -/

/-- A text without the marks stays with the last piece. -/
theorem splitAtChars_append (p : Char → Bool) (cs : List Char) :
    ∃ front last, ∀ ds, (∀ c ∈ ds, p c = false) →
      splitAtChars p (cs ++ ds) = front ++ [last ++ ds] := by
  induction cs with
  | nil => exact ⟨[], [], fun ds none => splitAtChars_of_forall none⟩
  | cons c cs ih =>
      obtain ⟨front, last, split⟩ := ih
      by_cases cut : p c = true
      · refine ⟨[] :: front, last, fun ds none => ?_⟩
        rw [List.cons_append, splitAtChars, if_pos cut, split ds none]
        rfl
      · cases front with
        | nil =>
            refine ⟨[], c :: last, fun ds none => ?_⟩
            rw [List.cons_append, splitAtChars, if_neg cut, split ds none]
            rfl
        | cons piece front =>
            refine ⟨(c :: piece) :: front, last, fun ds none => ?_⟩
            rw [List.cons_append, splitAtChars, if_neg cut, split ds none]
            rfl

/-- A suffix without a slash goes to the last name of a path. -/
theorem pathNames_append (stem : String) :
    ∃ front last, ∀ suffix : String, '/' ∉ suffix.toList →
      pathNames (stem ++ suffix) = front ++ [last ++ suffix] := by
  obtain ⟨front, last, split⟩ := splitAtChars_append (· == '/') stem.toList
  refine ⟨front.map String.ofList, String.ofList last, fun suffix noSlash => ?_⟩
  have none : ∀ c ∈ suffix.toList, (c == '/') = false := by
    intro c member
    rw [beq_eq_false_iff_ne]
    intro slash
    exact noSlash (slash ▸ member)
  rw [pathNames, String.toList_append, split _ none, List.map_append, List.map_singleton,
    String.ofList_append, String.ofList_toList]

/-- A step that neither stays nor goes up goes down. -/
theorem eq_append_of_step {name : String} (moves : isStay name = false)
    (descends : isUp name = false) (leads : directory.step place name = some other) :
    other = place ++ [name] := by
  rw [step, moves, descends, if_neg Bool.false_ne_true] at leads
  by_cases folder : (!directory.isFolder place) = true
  · rw [if_pos folder] at leads
    cases leads
  rw [if_neg folder, if_neg Bool.false_ne_true] at leads
  by_cases fits : byteSize name.toList ≤ longestName
  · rw [if_pos fits, Option.some.injEq] at leads
    exact leads.symm
  · rw [if_neg fits] at leads
    cases leads

/-- The place of a file, from the names of its path. -/
theorem Opens.place_eq {front : List String} {last : String} (opens : directory.Opens path place)
    (names : pathNames path = front ++ [last]) :
    ∃ folder, front.foldlM directory.step [] = some folder ∧ place = folder ++ [last] := by
  have leads := opens.leads
  have ofFile := opens.ofFile
  rw [isFolderPath, names, List.getLast?_append_of_ne_nil _ (List.cons_ne_nil last []),
    List.getLast?_singleton, Bool.or_eq_false_iff] at ofFile
  by_cases isPath : isPath path = true
  · rw [resolve, if_pos isPath, names, List.foldlM_append] at leads
    obtain ⟨folder, ledTo, leads⟩ := Option.bind_eq_some_iff.mp leads
    have moves : directory.step folder last = some place := by
      rw [← leads, List.foldlM_cons]
      exact (bind_pure _).symm
    exact ⟨folder, ledTo, eq_append_of_step ofFile.1 ofFile.2 moves⟩
  · rw [resolve, if_neg isPath] at leads
    cases leads

/-- **Files of one stem** with suffixes of their own have places of their own. -/
theorem Opens.ne_of_suffix_ne {stem first second : String}
    (opens : directory.Opens (stem ++ first) place)
    (opensToo : directory.Opens (stem ++ second) other) (noSlash : '/' ∉ first.toList)
    (noSlashToo : '/' ∉ second.toList) (differ : first ≠ second) : place ≠ other := by
  obtain ⟨front, last, names⟩ := pathNames_append stem
  obtain ⟨folder, ledTo, rfl⟩ := opens.place_eq (names first noSlash)
  obtain ⟨folderToo, ledToToo, rfl⟩ := opensToo.place_eq (names second noSlashToo)
  intro same
  have ends : last ++ first = last ++ second := by
    have lasts := congrArg List.getLast? same
    simpa using lasts
  exact differ (String.append_right_inj last |>.mp ends)

/-! ### What was written -/

/-- Other paths read what they did. -/
theorem read?_set_of_resolve_ne (free : directory.isFolder place = false)
    (elsewhere : directory.resolve path ≠ some place) :
    (directory.set place (.file text)).read? path = directory.read? path := by
  have same : ((directory.set place (.file text)).resolve path).bind
      (directory.set place (.file text)).get? = (directory.resolve path).bind directory.get? := by
    rw [resolve_set_file free]
    cases leads : directory.resolve path with
    | none => rfl
    | some other =>
        have apart : other ≠ place := fun same => elsewhere (by rw [leads, same])
        rw [Option.bind_some, Option.bind_some, get?_set (all_isUp_of_isFolder free), if_neg apart]
  rw [read?, read?, same]

/-- A directory after some files, given by their paths and texts, were written into it, and nothing
else was changed. -/
structure Written (before after : Directory) (files : List (String × String)) : Prop where
  ways : ∀ path, after.resolve path = before.resolve path
  texts : ∀ file ∈ files, after.read? file.1 = some file.2
  others : ∀ place, (∀ file ∈ files, before.resolve file.1 ≠ some place) →
    after.get? place = before.get? place

namespace Written

variable {before after : Directory} {files : List (String × String)}

theorem refl (directory : Directory) : directory.Written directory [] where
  ways := fun _ => rfl
  texts := nofun
  others := fun _ _ => rfl

/-- One more file, at a place of its own. -/
theorem snoc (written : before.Written after files) (opens : after.Opens path place)
    (apart : ∀ file ∈ files, before.resolve file.1 ≠ some place) (text : String) :
    before.Written (after.set place (.file text)) (files ++ [(path, text)]) where
  ways := fun other => by rw [resolve_set_file opens.free, written.ways]
  texts := by
    intro file member
    rcases List.mem_append.mp member with earlier | last
    · have elsewhere : after.resolve file.1 ≠ some place := by
        rw [written.ways]
        exact apart file earlier
      rw [read?_set_of_resolve_ne opens.free elsewhere]
      exact written.texts file earlier
    · rw [List.mem_singleton.mp last]
      refine (opens.set opens.free text).read?_of_get? ?_
      rw [opens.get?_set, if_pos rfl]
  others := by
    intro other elsewhere
    have differs : other ≠ place := by
      intro same
      refine elsewhere (path, text) (List.mem_append_right files List.mem_cons_self) ?_
      rw [← written.ways, opens.leads, same]
    rw [opens.get?_set, if_neg differs]
    exact written.others other fun file member => elsewhere file (List.mem_append_left _ member)

end Written

end Directory

/-! ### Generation -/

namespace Session

variable {directory : Directory} {place : List String} {path : String}

/-- A result that touches no file. -/
theorem runOn_ofExcept {α : Type} (result : Except GenerationError α) :
    (ofExcept result).runOn directory = (result, directory) :=
  rfl

theorem runOn_writeFile_of_opens (opens : directory.Opens path place) (text : String) :
    (writeFile path text).runOn directory = (.ok (), directory.set place (.file text)) := by
  rw [runOn_writeFile, opens.write?]

theorem runOn_appendFile_of_opens (opens : directory.Opens path place) (text more : String) :
    (appendFile path more).runOn (directory.set place (.file text)) =
      (.ok (), directory.set place (.file (text ++ more))) := by
  rw [appendFile, change, runOn_bind, runOn_get]
  dsimp only
  rw [opens.append?_set]
  rfl

/-- Adding no text is left out, which makes no difference. -/
theorem runOn_ite_appendFile {α : Type} (opens : directory.Opens path place) (text more : String)
    (next : Session α) :
    (if (more != "") = true then appendFile path more >>= fun _ => next else next).runOn
        (directory.set place (.file text)) =
      next.runOn (directory.set place (.file (text ++ more))) := by
  by_cases empty : more = ""
  · subst empty
    rw [String.append_empty]
    rfl
  · have written : (more != "") = true := bne_iff_ne.mpr empty
    rw [if_pos written, runOn_bind, runOn_appendFile_of_opens opens]

/-- Saving an index, where its file opens. -/
theorem runOn_saveIndex_of_opens {index : ScalarIndex}
    (opens : directory.Opens (ScalarIndex.fileName index.module) place) :
    (saveIndex index).runOn directory =
      (.ok (ScalarIndex.fileName index.module), directory.set place (.file index.write)) := by
  rw [runOn_saveIndex, opens.write?]

end Session

namespace Generator

open ForeignGlue.GeneratedModule (hostFileOf foreignFileOf)
open ForeignGlue.ScalarIndex (fileName)

variable {generator : Generator} {interface : Interface} {directory : Directory}

/-- The places of a module's artifacts in a directory: each is open to a file, and they differ. -/
structure Places (directory : Directory) (module : String) (dialect : Dialect)
    (host foreign index : List String) : Prop where
  hostOpens : directory.Opens (hostFileOf module) host
  foreignOpens : directory.Opens (foreignFileOf module dialect) foreign
  indexOpens : directory.Opens (fileName module) index
  host_ne_foreign : host ≠ foreign
  host_ne_index : host ≠ index
  foreign_ne_index : foreign ≠ index

/-- **Where the files of a module go**, if all of them can be written. -/
theorem exists_places {module : String} {dialect : Dialect}
    (writable : ∀ path ∈ [hostFileOf module, foreignFileOf module dialect, fileName module],
      ∀ text, (directory.write? path text).isSome) :
    ∃ host foreign index, Places directory module dialect host foreign index := by
  have opens (path : String) (member : path ∈
      [hostFileOf module, foreignFileOf module dialect, fileName module]) :
      ∃ place, directory.Opens path place := by
    obtain ⟨after, written⟩ := Option.isSome_iff_exists.mp (writable path member "")
    obtain ⟨place, opens, -⟩ := Directory.write?_eq_some_iff.mp written
    exact ⟨place, opens⟩
  obtain ⟨host, hostOpens⟩ := opens (hostFileOf module) (by simp)
  obtain ⟨foreign, foreignOpens⟩ := opens (foreignFileOf module dialect) (by simp)
  obtain ⟨index, indexOpens⟩ := opens (fileName module) (by simp)
  have suffixed : directory.Opens (module ++ ("_p." ++ dialect.extension)) foreign := by
    rw [← String.append_assoc]
    exact foreignOpens
  refine ⟨host, foreign, index, hostOpens, foreignOpens, indexOpens, ?_, ?_, ?_⟩
  · exact hostOpens.ne_of_suffix_ne suffixed (by decide) (by cases dialect <;> decide)
      (by cases dialect <;> decide)
  · exact hostOpens.ne_of_suffix_ne indexOpens (by decide) (by decide) (by decide)
  · exact suffixed.ne_of_suffix_ne indexOpens (by cases dialect <;> decide) (by decide)
      (by cases dialect <;> decide)

section Places

variable {module : String} {dialect : Dialect} {host foreign index : List String}
  (places : Places directory module dialect host foreign index)
include places

/-- Writing one of the files leaves the places of all. -/
theorem Places.set {place : List String} (free : directory.isFolder place = false) (text : String) :
    Places (directory.set place (.file text)) module dialect host foreign index where
  hostOpens := places.hostOpens.set free text
  foreignOpens := places.foreignOpens.set free text
  indexOpens := places.indexOpens.set free text
  host_ne_foreign := places.host_ne_foreign
  host_ne_index := places.host_ne_index
  foreign_ne_index := places.foreign_ne_index

/-- The directory with the host file. -/
theorem Places.written_host (text : String) :
    directory.Written (directory.set host (.file text)) [(hostFileOf module, text)] :=
  (Directory.Written.refl directory).snoc places.hostOpens nofun text

/-- The directory with all three files. -/
theorem Places.written_all (hostText foreignText indexText : String) :
    directory.Written
      (((directory.set host (.file hostText)).set foreign (.file foreignText)).set index
        (.file indexText))
      [(hostFileOf module, hostText), (foreignFileOf module dialect, foreignText),
        (fileName module, indexText)] := by
  have afterHost := places.set places.hostOpens.free hostText
  have afterForeign := afterHost.set afterHost.foreignOpens.free foreignText
  refine ((places.written_host hostText).snoc afterHost.foreignOpens ?_ foreignText).snoc
    afterForeign.indexOpens ?_ indexText
  · intro file member
    rw [List.mem_singleton.mp member, places.hostOpens.leads]
    exact fun same => places.host_ne_foreign (Option.some.inj same)
  · intro file member
    rcases List.mem_append.mp member with earlier | last
    · rw [List.mem_singleton.mp earlier, places.hostOpens.leads]
      exact fun same => places.host_ne_index (Option.some.inj same)
    · rw [List.mem_singleton.mp last, places.foreignOpens.leads]
      exact fun same => places.foreign_ne_index (Option.some.inj same)

/-- The host file is not that of the index. -/
theorem Places.read?_index_set_host (text : String) :
    (directory.set host (.file text)).read? (fileName module) =
      directory.read? (fileName module) := by
  refine Directory.read?_set_of_resolve_ne places.hostOpens.free ?_
  rw [places.indexOpens.leads]
  exact fun same => places.host_ne_index (Option.some.inj same).symm

/-- **Writing all artifacts** of a module. -/
theorem runOn_writeAll {generated : GeneratedModule} (ofModule : generated.module = module)
    (inDialect : generated.dialect = dialect) (ofIndex : generated.index.module = module) :
    generated.writeAll.runOn directory =
      (.ok [hostFileOf module, foreignFileOf module dialect, fileName module],
        ((directory.set host (.file generated.hostSource)).set foreign
          (.file generated.foreignSource)).set index (.file generated.index.write)) := by
  subst ofModule inDialect
  have afterHost := places.set places.hostOpens.free generated.hostSource
  have afterForeign := afterHost.set afterHost.foreignOpens.free generated.foreignSource
  have hostOpens : directory.Opens generated.hostFile host := places.hostOpens
  have foreignOpens : (directory.set host (.file generated.hostSource)).Opens
      generated.foreignFile foreign := afterHost.foreignOpens
  have indexOpens := ofIndex.symm ▸ afterForeign.indexOpens
  rw [GeneratedModule.writeAll, Session.runOn_bind, Session.runOn_writeFile_of_opens hostOpens]
  dsimp only
  rw [Session.runOn_bind, Session.runOn_writeFile_of_opens foreignOpens]
  dsimp only
  rw [Session.runOn_bind, Session.runOn_saveIndex_of_opens indexOpens, ofIndex]
  rfl

end Places

/-- The directory after generation, as far as it came, and its outcome. The host file stands from the
moment its text is complete; the code of record types is added to it. -/
theorem runOn_generateTo {host foreign index : List String}
    (places : Places directory (generator.context interface).module
      (generator.context interface).options.dialect host foreign index) :
    (generator.generateTo interface).runOn directory =
      match (generator.context interface).hostSource with
      | .error error => (.error error, directory)
      | .ok hostText =>
        match generator.records (generator.context interface) with
        | .error error => (.error error, directory.set host (.file hostText))
        | .ok records =>
          match (generator.context interface).foreignSource records.foreign with
          | .error error => (.error error, directory.set host (.file (hostText ++ records.host)))
          | .ok foreignText =>
            (.ok (assemble (generator.context interface) (hostText ++ records.host) foreignText),
              ((directory.set host (.file (hostText ++ records.host))).set foreign
                (.file foreignText)).set index
                  (.file (generator.context interface).inventory.index.write)) := by
  set ctx := generator.context interface with ctxIs
  rw [generateTo, Session.runOn_bind, ← ctxIs, Session.runOn_ofExcept]
  cases ctx.hostSource with
  | error error => rfl
  | ok hostText =>
      dsimp only
      rw [Session.runOn_bind, Session.runOn_writeFile_of_opens places.hostOpens]
      dsimp only
      rw [Session.runOn_bind, Session.runOn_ofExcept]
      cases generator.records ctx with
      | error error => rfl
      | ok records =>
          dsimp only
          rw [Session.runOn_ite_appendFile places.hostOpens, Session.runOn_bind,
            Session.runOn_ofExcept]
          cases ctx.foreignSource records.foreign with
          | error error => rfl
          | ok foreignText =>
              dsimp only
              have afterHost := places.set places.hostOpens.free (hostText ++ records.host)
              rw [Session.runOn_bind, Session.runOn_writeFile_of_opens afterHost.foreignOpens]
              dsimp only
              have afterForeign := afterHost.set afterHost.foreignOpens.free foreignText
              rw [Session.runOn_bind,
                Session.runOn_saveIndex_of_opens afterForeign.indexOpens]
              rfl

/-- **Generation, step by step**: the host source, the records, the foreign source. -/
theorem generate_eq (generator : Generator) (interface : Interface) :
    generator.generate interface =
      match (generator.context interface).hostSource with
      | .error error => .error error
      | .ok hostText =>
        match generator.records (generator.context interface) with
        | .error error => .error error
        | .ok records =>
          match (generator.context interface).foreignSource records.foreign with
          | .error error => .error error
          | .ok foreignText =>
            .ok (assemble (generator.context interface) (hostText ++ records.host) foreignText) := by
  simp only [generate, Bind.bind, Except.bind]
  cases (generator.context interface).hostSource with
  | error error => rfl
  | ok hostText =>
      dsimp only
      cases generator.records (generator.context interface) with
      | error error => rfl
      | ok records =>
          dsimp only
          cases (generator.context interface).foreignSource records.foreign with
          | error error => rfl
          | ok foreignText => rfl

theorem context_module (generator : Generator) (interface : Interface) :
    (generator.context interface).module = interface.module := by
  show (if generator.options.timeRoutines then interface.addTimers else interface).module = _
  split <;> rfl

/-- **Generation into a directory is generation.** Where the three files of a module can be written,
the outcome is that of generation alone. If it succeeds, the directory holds the three artifacts, as if
they had been written afterwards, and is unchanged elsewhere. If it fails, the directory is unchanged
apart from the host file, which holds what was complete before the error. -/
theorem generateTo_follows_generate (generator : Generator) (interface : Interface)
    (directory : Directory)
    (writable : ∀ path ∈ [hostFileOf interface.module,
        foreignFileOf interface.module generator.options.dialect, fileName interface.module],
      ∀ text, (directory.write? path text).isSome) :
    ∃ after, (generator.generateTo interface).runOn directory =
        (generator.generate interface, after) ∧
      (∀ generated, generator.generate interface = .ok generated →
        directory.Written after [(hostFileOf interface.module, generated.hostSource),
          (foreignFileOf interface.module generator.options.dialect, generated.foreignSource),
          (fileName interface.module, generated.index.write)] ∧
        generated.writeAll.runOn directory = (.ok [hostFileOf interface.module,
          foreignFileOf interface.module generator.options.dialect, fileName interface.module],
          after)) ∧
      (∀ error, (generator.context interface).hostSource = .error error →
        generator.generate interface = .error error ∧ after = directory) ∧
      (∀ host error, (generator.context interface).hostSource = .ok host →
        generator.records (generator.context interface) = .error error →
        generator.generate interface = .error error ∧
          directory.Written after [(hostFileOf interface.module, host)]) ∧
      (∀ host records error, (generator.context interface).hostSource = .ok host →
        generator.records (generator.context interface) = .ok records →
        (generator.context interface).foreignSource records.foreign = .error error →
        generator.generate interface = .error error ∧
          directory.Written after [(hostFileOf interface.module, host ++ records.host)]) ∧
      ∀ error, generator.generate interface = .error error →
        after.read? (fileName interface.module) = directory.read? (fileName interface.module) := by
  obtain ⟨host, foreign, index, places⟩ := exists_places writable
  rw [← context_module generator interface] at places ⊢
  have run := runOn_generateTo places
  have result := generate_eq generator interface
  refine ⟨((generator.generateTo interface).runOn directory).2, ?_, ?_, ?_, ?_, ?_, ?_⟩
  · rw [result, run]
    cases (generator.context interface).hostSource with
    | error error => rfl
    | ok hostText =>
        dsimp only
        cases generator.records (generator.context interface) with
        | error error => rfl
        | ok records =>
            dsimp only
            cases (generator.context interface).foreignSource records.foreign with
            | error error => rfl
            | ok foreignText => rfl
  · intro generated done
    obtain ⟨hostText, hosted, done⟩ := bind_eq_ok_iff.mp done
    obtain ⟨records, recorded, done⟩ := bind_eq_ok_iff.mp done
    obtain ⟨foreignText, linked, done⟩ := bind_eq_ok_iff.mp done
    cases done
    simp only [hosted, recorded, linked] at run
    rw [run]
    exact ⟨places.written_all _ _ _, runOn_writeAll places rfl rfl rfl⟩
  · intro error failed
    simp only [failed] at run result
    exact ⟨result, by rw [run]⟩
  · intro hostText error hosted failed
    simp only [hosted, failed] at run result
    exact ⟨result, by rw [run]; exact places.written_host hostText⟩
  · intro hostText records error hosted recorded failed
    simp only [hosted, recorded, failed] at run result
    exact ⟨result, by rw [run]; exact places.written_host (hostText ++ records.host)⟩
  · intro error failed
    rw [result] at failed
    rw [run]
    cases hosted : (generator.context interface).hostSource with
    | error hostError => rfl
    | ok hostText =>
        dsimp only
        cases recorded : generator.records (generator.context interface) with
        | error hookError => exact places.read?_index_set_host hostText
        | ok records =>
            dsimp only
            cases linked : (generator.context interface).foreignSource records.foreign with
            | error linkError => exact places.read?_index_set_host (hostText ++ records.host)
            | ok foreignText =>
                simp only [hosted, recorded, linked] at failed
                cases failed

/-- A directory with the host file of an earlier run, a file of another kind and a folder. -/
def usedDirectory : Directory where
  entries := [(["wxypymodule.c"], .file "stale"), (["notes"], .file "kept"), (["old"], .folder)]

/-- A generator that takes in code of record types. -/
def recordingGenerator : Generator where
  records := .ofLines ["static int records;"] [.statement "! records"]

/-- A generator that cannot make the code of record types. -/
def refusingGenerator : Generator where
  records := fun ctx => .error (.fileAccess ctx.module)

/-- With the code of record types all three files are there; without it only the host file is. The
stale file is replaced each time, and the other file is kept. -/
theorem generateTo_follows_generate_used :
    (∃ generated after,
      (recordingGenerator.generateTo twinInterface).runOn usedDirectory = (.ok generated, after) ∧
      after.read? "wxypymodule.c" = some generated.hostSource ∧
      after.read? "wxy_p.F90" = some generated.foreignSource ∧
      after.read? "wxy.scalars" = some generated.index.write ∧
      after.get? ["notes"] = some (.file "kept")) ∧
    ∃ host after,
      (refusingGenerator.generateTo twinInterface).runOn usedDirectory =
        (.error (.fileAccess "wxy"), after) ∧
      (refusingGenerator.context twinInterface).hostSource = .ok host ∧
      after.read? "wxypymodule.c" = some host ∧
      after.read? "wxy.scalars" = none ∧
      after.get? ["notes"] = some (.file "kept") := by
  have writable : ∀ path ∈ [hostFileOf "wxy", foreignFileOf "wxy" .free, fileName "wxy"],
      ∀ text, (usedDirectory.write? path text).isSome := by
    intro path member text
    simp only [List.mem_cons, List.not_mem_nil, or_false] at member
    rcases member with rfl | rfl | rfl
    · rfl
    · rfl
    · rfl
  constructor
  · obtain ⟨after, run, success, -⟩ :=
      generateTo_follows_generate recordingGenerator twinInterface usedDirectory writable
    have succeeds : (recordingGenerator.generate twinInterface).isOk = true := by decide +kernel
    cases done : recordingGenerator.generate twinInterface with
    | error error => rw [done] at succeeds; cases succeeds
    | ok generated =>
        obtain ⟨written, -⟩ := success generated done
        rw [done] at run
        refine ⟨generated, after, run, ?_, ?_, ?_, ?_⟩
        · exact written.texts _ List.mem_cons_self
        · exact written.texts (_, _) (List.mem_cons_of_mem _ List.mem_cons_self)
        · exact written.texts (_, _)
            (List.mem_cons_of_mem _ (List.mem_cons_of_mem _ List.mem_cons_self))
        · refine (written.others ["notes"] ?_).trans rfl
          simp only [List.forall_mem_cons]
          exact ⟨by decide +kernel, by decide +kernel, by decide +kernel, nofun⟩
  · obtain ⟨after, run, -, -, hookFailure, -, noIndex⟩ :=
      generateTo_follows_generate refusingGenerator twinInterface usedDirectory writable
    have succeeds : (refusingGenerator.context twinInterface).hostSource.isOk = true := by
      decide +kernel
    cases done : (refusingGenerator.context twinInterface).hostSource with
    | error error => rw [done] at succeeds; cases succeeds
    | ok host =>
        obtain ⟨failed, written⟩ := hookFailure host (.fileAccess "wxy") done rfl
        rw [failed] at run
        refine ⟨host, after, run, rfl, written.texts _ List.mem_cons_self, ?_, ?_⟩
        · exact (noIndex _ failed).trans (by decide +kernel)
        · refine (written.others ["notes"] ?_).trans rfl
          simp only [List.forall_mem_cons]
          exact ⟨by decide +kernel, nofun⟩

end Generator

end ForeignGlue
