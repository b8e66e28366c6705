import Shipyard.Proofs.FileSystem.Disk
import Shipyard.Proofs.FileSystem.Walk

/-!
# What requests do

Almost every request looks up one path and then depends on the one node that is there. A
`FileRequest` says this as data: what is given if the look fails, and what is done with a node. One
equation for each request brings it into this form, and everything else is proved of requests at
large.
-/

namespace Shipyard

variable {α : Type} {fs gs hs : FileSystem} {p : Path} {loc : Location}

/-! ## One node -/

namespace FileSystem

theorem node?_nil (fs : FileSystem) : fs.node? [] = some .directory := rfl

/-- The file system with a node, or with none, at a location; the root stays what it is. -/
def set (fs : FileSystem) (loc : Location) : Option Node → FileSystem
  | some node => fs.put loc node
  | none => if loc = [] then fs else fs.erase loc

@[simp] theorem cwd_set (fs : FileSystem) (loc : Location) (node : Option Node) :
    (fs.set loc node).cwd = fs.cwd := by
  cases node with
  | none =>
    unfold set
    dsimp only
    split <;> rfl
  | some node =>
    show (fs.put loc node).cwd = _
    unfold put
    split <;> rfl

theorem node?_set (fs : FileSystem) (node : Option Node) (l : Location) (h : loc ≠ []) :
    (fs.set loc node).node? l = if l = loc then node else fs.node? l := by
  cases node with
  | none =>
    show (if loc = [] then fs else fs.erase loc).node? l = _
    rw [if_neg h, node?_erase _ _ h]
  | some node => exact node?_put _ _ _ h

theorem set_nil (fs : FileSystem) (node : Option Node) : fs.set [] node = fs := by
  cases node <;> simp [set, put]

/-- To put what is there changes nothing. -/
theorem set_node? (fs : FileSystem) (loc : Location) : fs.set loc (fs.node? loc) = fs := by
  by_cases h : loc = []
  · rw [h, set_nil]
  · refine ext_node? (cwd_set ..) fun l => ?_
    rw [node?_set _ _ _ h]
    split
    · next hl => rw [hl]
    · rfl

end FileSystem

/-! ## Requests -/

/-- A request that looks up one path. -/
structure FileRequest (α : Type) where
  /-- the path -/
  path : Path
  /-- what is given if the look ends with a fault -/
  lost : Fault → Except Fault α
  /-- what is given for a node, and the node that is there then -/
  found : Option Node → Except Fault α × Option Node
  /-- a directory stays one -/
  keeps : (found (some .directory)).2 = some .directory

namespace FileRequest

variable {r : FileRequest α}

/-- What a request gives, and the files that it leaves. -/
def run (r : FileRequest α) (fs : FileSystem) : Except Fault α × FileSystem :=
  match fs.locate r.path with
  | .error fault => (r.lost fault, fs)
  | .ok loc => ((r.found (fs.node? loc)).1, fs.set loc (r.found (fs.node? loc)).2)

theorem run_of_lost {fault : Fault} (h : fs.locate r.path = .error fault) :
    r.run fs = (r.lost fault, fs) := by
  rw [run, h]

theorem run_of_found (h : fs.locate r.path = .ok loc) :
    r.run fs = ((r.found (fs.node? loc)).1, fs.set loc (r.found (fs.node? loc)).2) := by
  rw [run, h]

@[simp] theorem cwd_run (r : FileRequest α) (fs : FileSystem) : (r.run fs).2.cwd = fs.cwd := by
  unfold run
  split
  · rfl
  · exact FileSystem.cwd_set ..

/-- After a request that has found its location the node is the new one there, and all others are
the same. -/
theorem node?_run (h : fs.locate r.path = .ok loc) (l : Location) :
    (r.run fs).2.node? l = if l = loc then (r.found (fs.node? loc)).2 else fs.node? l := by
  rw [run_of_found h]
  by_cases hloc : loc = []
  · rw [hloc, FileSystem.set_nil, FileSystem.node?_nil, r.keeps]
    split
    · next hl => rw [hl, FileSystem.node?_nil]
    · rfl
  · exact FileSystem.node?_set _ _ _ hloc

/-- A request changes at most what is at the place of its path. -/
theorem node?_run_of_ne {l : Location} (h : l ≠ r.path.place fs.cwd) :
    (r.run fs).2.node? l = fs.node? l := by
  rcases hlocate : fs.locate r.path with fault | loc
  · rw [run_of_lost hlocate]
  · rw [node?_run hlocate, FileSystem.eq_place_of_locate hlocate, if_neg h]

/-- A directory stays one, wherever it is. -/
theorem directory_run {l : Location} (h : fs.node? l = some .directory) :
    (r.run fs).2.node? l = some .directory := by
  rcases hlocate : fs.locate r.path with fault | loc
  · rw [run_of_lost hlocate, h]
  · rw [node?_run hlocate]
    split
    · next hl =>
      rw [← hl, h]
      exact r.keeps
    · exact h

/-- Whether a request never makes a directory. -/
def MakesNone (r : FileRequest α) : Prop :=
  ∀ node, (r.found node).2 = some .directory → node = some .directory

/-- Such a request keeps all directories. -/
theorem MakesNone.sameDirectories (h : r.MakesNone) (fs : FileSystem) :
    FileSystem.SameDirectories fs (r.run fs).2 := by
  refine ⟨r.cwd_run fs, fun l => ?_⟩
  rcases hlocate : fs.locate r.path with fault | loc
  · rw [run_of_lost hlocate]
  · rw [node?_run hlocate]
    split
    · next hl =>
      rw [hl]
      refine ⟨h _, fun hdirectory => ?_⟩
      rw [hdirectory]
      exact r.keeps
    · rfl

/-! ## The requests of a file system -/

/-- What is told of a path that cannot be looked up. -/
def refused (fault : Fault) : Except Fault α := .error fault

/-- Opens a file. -/
def openFile (p : Path) : FileRequest File where
  path := p
  lost := refused
  found node :=
    (match node with
    | some (.file f) => if f.mayBeRead then .ok f else .error (FileSystem.osError .accessDenied p)
    | some .directory => .error (FileSystem.osError .isDirectory p)
    | none => .error (FileSystem.osError .noEntry p), node)
  keeps := rfl

/-- Gives a file a content. -/
def writeBytes (p : Path) (content : Bytes) : FileRequest Unit where
  path := p
  lost := refused
  found
    | some .directory => (.error (FileSystem.osError .isDirectory p), some .directory)
    | some (.file f) =>
      if f.mayBeWritten then (.ok (), some (.file { f with content }))
      else (.error (FileSystem.osError .accessDenied p), some (.file f))
    | none => (.ok (), some (.file ⟨content, Disk.newFileMode, 0⟩))
  keeps := rfl

/-- Gives a file its permission bits and its time. -/
def setStatus (p : Path) (mode : Nat) (modified : Int) : FileRequest Unit where
  path := p
  lost := refused
  found
    | some (.file f) => (.ok (), some (.file { f with mode, modified }))
    | node => (.ok (), node)
  keeps := rfl

/-- Removes a file. -/
def removeFile (p : Path) : FileRequest Unit where
  path := p
  lost := refused
  found
    | none => (.error (FileSystem.osError .noEntry p), none)
    | some .directory => (.error (FileSystem.osError .isDirectory p), some .directory)
    | some (.file _) => (.ok (), none)
  keeps := rfl

/-- A fault, unless it is that nothing is there. -/
def unlessAbsent : Fault → Except Fault Unit
  | .os e => if e.errno = .noEntry then .ok () else .error (.os e)
  | fault => .error fault

/-- Removes a file if it is there. -/
def removeIfPresent (p : Path) : FileRequest Unit where
  path := p
  lost := unlessAbsent
  found
    | none => (.ok (), none)
    | some .directory => (.error (FileSystem.osError .isDirectory p), some .directory)
    | some (.file _) => (.ok (), none)
  keeps := rfl

/-- Makes a directory. -/
def makeDirectory (p : Path) : FileRequest Unit where
  path := p
  lost := refused
  found
    | some node => (.error (FileSystem.osError .alreadyExists p), some node)
    | none => (.ok (), some .directory)
  keeps := rfl

theorem makesNone_openFile : (openFile p).MakesNone := fun _ h => h

theorem makesNone_writeBytes {content : Bytes} : (writeBytes p content).MakesNone := by
  rintro (_ | _ | f) h
  · cases h
  · rfl
  · simp only [writeBytes] at h
    split at h <;> cases h

theorem makesNone_setStatus {mode : Nat} {modified : Int} :
    (setStatus p mode modified).MakesNone := by
  rintro (_ | _ | f) h <;> first | rfl | cases h

theorem makesNone_removeIfPresent : (removeIfPresent p).MakesNone := by
  rintro (_ | _ | f) h <;> first | rfl | cases h

end FileRequest

namespace Disk

/-- A computation that looks up a path and goes on with the node there is a request, if it does with
the node what the request does. -/
theorem runOn_request {r : FileRequest α} (hlost : r.lost = FileRequest.refused)
    (f : Location → Option Node → Disk α)
    (hfound : ∀ (fs : FileSystem) loc, runOn (f loc (fs.node? loc)) fs =
      ((r.found (fs.node? loc)).1, fs.set loc (r.found (fs.node? loc)).2)) (fs : FileSystem) :
    runOn (locate r.path >>= fun loc => get >>= fun fs => f loc (fs.node? loc)) fs = r.run fs := by
  rw [runOn_bind, locate, runOn_query]
  rcases hlocate : fs.locate r.path with fault | loc
  · rw [FileRequest.run_of_lost hlocate, hlost]
    rfl
  · rw [FileRequest.run_of_found hlocate]
    dsimp only
    rw [runOn_bind_ok (runOn_get fs)]
    exact hfound fs loc

theorem runOn_openFile (p : Path) (fs : FileSystem) :
    runOn (openFile p) fs = (FileRequest.openFile p).run fs := by
  refine runOn_request (r := FileRequest.openFile p) rfl (fun _ node => match node with
    | some (.file f) => if f.mayBeRead then return f else fail .accessDenied p
    | some .directory => fail .isDirectory p
    | none => fail .noEntry p) (fun fs loc => ?_) fs
  show _ = (_, fs.set loc (fs.node? loc))
  rw [FileSystem.set_node?]
  rcases fs.node? loc with _ | _ | f
  · rfl
  · rfl
  · dsimp only [FileRequest.openFile]
    split <;> rfl

theorem runOn_writeBytes (p : Path) (content : Bytes) (fs : FileSystem) :
    runOn (writeBytes p content) fs = (FileRequest.writeBytes p content).run fs := by
  refine runOn_request (r := FileRequest.writeBytes p content) rfl (fun loc node => match node with
    | some .directory => fail .isDirectory p
    | some (.file f) =>
      if f.mayBeWritten then modify (·.put loc (.file { f with content }))
      else fail .accessDenied p
    | none => modify (·.put loc (.file ⟨content, newFileMode, 0⟩))) (fun fs loc => ?_) fs
  have hset := fs.set_node? loc
  rcases hnode : fs.node? loc with _ | _ | f
  all_goals
    rw [hnode] at hset
    dsimp only [FileRequest.writeBytes]
  · rfl
  · rw [hset]
    rfl
  · split
    · rfl
    · rw [hset]
      rfl

theorem runOn_setStatus (p : Path) (mode : Nat) (modified : Int) (fs : FileSystem) :
    runOn (setStatus p mode modified) fs = (FileRequest.setStatus p mode modified).run fs := by
  refine runOn_request (r := FileRequest.setStatus p mode modified) rfl
    (fun loc node => match node with
    | some (.file f) => modify (·.put loc (.file { f with mode, modified }))
    | _ => return ()) (fun fs loc => ?_) fs
  have hset := fs.set_node? loc
  rcases hnode : fs.node? loc with _ | _ | f
  all_goals
    rw [hnode] at hset
    dsimp only [FileRequest.setStatus]
  · rw [hset]
    rfl
  · rw [hset]
    rfl
  · rfl

theorem runOn_removeFile (p : Path) (fs : FileSystem) :
    runOn (removeFile p) fs = (FileRequest.removeFile p).run fs := by
  refine runOn_request (r := FileRequest.removeFile p) rfl (fun loc node => match node with
    | none => fail .noEntry p
    | some .directory => fail .isDirectory p
    | some (.file _) => modify (·.erase loc)) (fun fs loc => ?_) fs
  have hset := fs.set_node? loc
  rcases hnode : fs.node? loc with _ | _ | f
  all_goals
    rw [hnode] at hset
    dsimp only [FileRequest.removeFile]
  · rw [hset]
    rfl
  · rw [hset]
    rfl
  · have hloc : loc ≠ [] := by
      rintro rfl
      cases hnode
    rw [FileSystem.set, if_neg hloc]
    rfl

/-- Of a removal that may be idle the error that nothing is there remains none. -/
theorem runOn_removeIfPresent (p : Path) (fs : FileSystem) :
    runOn (removeIfPresent p) fs = (FileRequest.removeIfPresent p).run fs := by
  unfold removeIfPresent
  rw [runOn_bind, runOn_attempt, runOn_removeFile]
  rcases hlocate : fs.locate p with fault | loc
  · rw [FileRequest.run_of_lost (r := FileRequest.removeFile p) hlocate,
      FileRequest.run_of_lost (r := FileRequest.removeIfPresent p) hlocate]
    cases fault with
    | os e =>
      dsimp only [FileRequest.removeFile, FileRequest.removeIfPresent, FileRequest.refused,
        FileRequest.unlessAbsent]
      split <;> rfl
    | refused | undecodable | archive | tooDeep | noProgram | failed => rfl
  · rw [FileRequest.run_of_found (r := FileRequest.removeFile p) hlocate,
      FileRequest.run_of_found (r := FileRequest.removeIfPresent p) hlocate]
    rcases fs.node? loc with _ | _ | f <;> rfl

theorem runOn_makeDirectory (p : Path) (fs : FileSystem) :
    runOn (makeDirectory p) fs = (FileRequest.makeDirectory p).run fs := by
  refine runOn_request (r := FileRequest.makeDirectory p) rfl (fun loc node => match node with
    | some _ => fail .alreadyExists p
    | none => modify (·.put loc .directory)) (fun fs loc => ?_) fs
  have hset := fs.set_node? loc
  rcases hnode : fs.node? loc with _ | node
  all_goals
    rw [hnode] at hset
    dsimp only [FileRequest.makeDirectory]
  · rfl
  · rw [hset]
    rfl

end Disk

end Shipyard
