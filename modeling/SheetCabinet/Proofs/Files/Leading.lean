import SheetCabinet.Proofs.Files.Change

/-!
# The file that a name leads to

A name in a directory leads to the file it is the name of, or, if it is that of a link, to the file
that the link leads to. Whoever opens a file by a path opens the file that the name leads to, whatever
the rest of the path is; the path matters only in that it may be too long, or use up too many links.

Results:
* a name leads to one file at most (`Leads.unique`), and goes on doing so where nothing goes
  (`Leads.grown`);
* whoever opens a file, or makes it, opens the one that the name leads to afterwards
  (`leads_of_openOrCreate`), and nothing is made if it led to one before (`openOrCreate_of_leads`).
-/

namespace SheetCabinet

namespace FileSystem

/-- The name in the directory at a place leads to the file. -/
def Leads (files : FileSystem) (place : Location) (item : String) (id : FileId) : Prop :=
  ∃ links spot, walk files.tree.get? true links place [.name (utf8 item)] = .ok (.found spot) ∧
    files.tree.get? spot = some (.file id)

variable {files after : FileSystem} {directory : Path} {item : String} {place : Location}
  {id other : FileId}

theorem Leads.unique (first : files.Leads place item id) (second : files.Leads place item other) :
    id = other := by
  obtain ⟨_, spot, walked, held⟩ := first
  obtain ⟨_, again, rewalked, reheld⟩ := second
  obtain rfl : spot = again := Arrival.found.inj (walk_unique walked rewalked)
  rw [held] at reheld
  cases reheld
  rfl

theorem Leads.grown (leads : files.Leads place item id)
    (grows : Grows files.tree.get? after.tree.get?) : after.Leads place item id := by
  obtain ⟨links, spot, walked, held⟩ := leads
  exact ⟨links, spot, walk_grown grows walked (fun _ _ absurd => by cases absurd),
    grows spot _ held⟩

/-- Where something comes to be at a place that was vacant, nothing goes. -/
theorem grows_of_sameBut {spot : Location} (same : SameBut [spot] files after)
    (vacant : files.tree.get? spot = none) : Grows files.tree.get? after.tree.get? := by
  intro other node held
  rw [same.look other, held]
  rw [List.mem_singleton]
  rintro rfl
  rw [vacant] at held
  cases held

/-- Whoever opens a file by a path, or makes it, opens the one that the name leads to then. -/
theorem leads_of_openOrCreate {opened : FileSystem} (component : Component item)
    (found : files.folder directory = .ok place)
    (done : files.openOrCreate (utf8 (Path.join directory item)) = .ok (id, opened)) :
    opened.Leads place item id := by
  obtain ⟨reached, within⟩ := within_of_openOrCreate component done
  obtain rfl : place = reached := Except.ok.inj (found.symm.trans within.folder)
  obtain ⟨left, arrived⟩ := arrive_within within
  unfold openOrCreate at done
  rw [arrived] at done
  split at done
  · cases done
  · rename_i inner name walked
    obtain ⟨inside, vacant, -⟩ := walk_vacant walked
    cases done
    have held := (stands_newFile inside vacant).held
    have grows := grows_of_sameBut (sameBut_newFile inside vacant) vacant
    refine ⟨left, inner ++ [name], walk_grown grows walked ?_, held⟩
    rintro _ _ same
    cases same
    exact ⟨_, held⟩
  · rename_i spot walked
    split at done
    · rename_i held
      cases done
      exact ⟨left, spot, walked, held⟩
    · cases done

/-- Where the name leads to a file, nothing is made. -/
theorem openOrCreate_of_leads {opened : FileSystem} (component : Component item)
    (found : files.folder directory = .ok place) (leads : files.Leads place item id)
    (done : files.openOrCreate (utf8 (Path.join directory item)) = .ok (other, opened)) :
    other = id ∧ opened = files := by
  obtain ⟨reached, within⟩ := within_of_openOrCreate component done
  obtain rfl : place = reached := Except.ok.inj (found.symm.trans within.folder)
  obtain ⟨left, arrived⟩ := arrive_within within
  obtain ⟨_, spot, walked, held⟩ := leads
  unfold openOrCreate at done
  rw [arrived] at done
  split at done
  · cases done
  · rename_i vacant
    cases walk_unique walked vacant
  · rename_i again
    cases walk_unique walked again
    rw [held] at done
    cases done
    exact ⟨rfl, rfl⟩

end FileSystem

end SheetCabinet
