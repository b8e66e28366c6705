import Shipyard.Unix.Files
import Shipyard.Utility.Small

/-!
# Programs on files

Programs that make, copy, move and remove files and directories, and change their permissions and
times.
-/

namespace Shipyard.Utility

open Unix (Program Status)

/-! ## Paths -/

/-- The path of a name in a directory. -/
def inDirectory (directory name : String) : String :=
  if directory.endsWith "/" then directory ++ name else directory ++ "/" ++ name

/-- What is known of a file, if it is there. -/
def statusOf (path : String) (follow : Bool) : Program (Option Status) := do
  return (← Program.ask (Unix.statusAt path follow)).toOption

/-- Whether a path leads to a directory. -/
def isDirectory (path : String) : Program Bool := do
  match ← statusOf path true with
  | some status => return status.kind = .directory
  | none => return false

/-- The names in a directory, without those that begin with a dot if they are not asked for. -/
def namesIn (path : String) : Program (Except Errno (List String)) :=
  Program.ask (Unix.namesIn path)

/-- Does something with each of some items, and tells whether everything was possible. -/
def forEach {α : Type} (use : α → Program Bool) : List α → Program Bool
  | [] => return true
  | a :: rest => do
    let own ← use a
    return (← forEach use rest) && own

/-- The code for something that was possible or not. -/
def codeFor (done : Bool) : Nat := if done then 0 else 1

/-- Complains about something that was not possible. -/
def cannot (c : Call) (message : String) : Program Bool := do
  complain c message
  return false

/-- Complains about something the system refused. -/
def refused (c : Call) (message : String) (errno : Errno) : Program Bool :=
  cannot c (message ++ ": " ++ errno.words)

/-- How deeply directories may be nested. -/
def depthLimit : Nat := 10000

/-! ## Directories -/

/-- The beginnings of a path that are paths. -/
def pathPrefixes (path : String) : List String :=
  let names := (Text.splitAt '/' path.toList).filter (· ≠ [])
  let front := if path.startsWith "/" then "/" else ""
  (List.range names.length).map fun n =>
    front ++ String.intercalate "/" ((names.take (n + 1)).map String.ofList)

/-- Makes a directory, and those above it if they are not there. `tell` is done for each one that is
made. -/
def makeWithParents (c : Call) (tell : String → Program Unit) : List String → Program Bool
  | [] => return true
  | path :: rest => do
    match ← Program.ask (Unix.makeDirectory path 0o777) with
    | .ok () =>
      tell path
      makeWithParents c tell rest
    | .error .alreadyExists =>
      if ← isDirectory path then makeWithParents c tell rest
      else
        let errno := if rest = [] then Errno.alreadyExists else .notDirectory
        refused c ("cannot create directory " ++ quotedAlways path) errno
    | .error errno => refused c ("cannot create directory " ++ quotedAlways path) errno

/-- Makes directories. -/
def mkdir : Utility :=
  withOptions [flag 'p' ["parents"], valued 'm' ["mode"], flag 'v' ["verbose"]] 1
    fun c o paths => do
    let mask ← Program.askD 0 Unix.ownMask
    let mode? := (o.value? 'm').map fun text => Unix.ModeChange.apply ⟨true, mask⟩ 0o777 text
    if paths = [] then misused c "missing operand" 1
    else if mode? = some none then
      failing c ("invalid mode " ++ quotedText ((o.value? 'm').getD "")) 1
    else
      let tell := fun (path : String) => if o.has 'v' then
          putLine c (c.name ++ ": created directory " ++ quotedAlways path)
        else pure ()
      let done ← forEach (fun path => do
        let made ← if o.has 'p' then makeWithParents c tell (pathPrefixes path)
          else match ← Program.ask (Unix.makeDirectory path 0o777) with
            | .ok () => do
              tell path
              pure true
            | .error errno => refused c ("cannot create directory " ++ quotedAlways path) errno
        match mode? with
        | some (some mode) => if made then Program.request (Unix.setMode path mode)
        | _ => pure ()
        return made) paths
      return codeFor done

/-- Removes directories one after the other, as long as that is possible. -/
def removeDirectories (c : Call) (isTold ignores : Bool) : List String → Program Bool
  | [] => return true
  | path :: rest => do
    if isTold then put c (c.name ++ ": removing directory, " ++ quotedAlways path ++ "\n")
    match ← Program.ask (Unix.removeDirectory path) with
    | .ok () => removeDirectories c isTold ignores rest
    | .error errno =>
      if ignores && errno = .notEmpty then return true
      else refused c ("failed to remove " ++ quotedAlways path) errno

/-- Removes empty directories. -/
def rmdir : Utility :=
  withOptions [flag 'p' ["parents"], flag 'v' ["verbose"],
    named 'i' ["ignore-fail-on-non-empty"] .without] 1 fun c o paths => do
    if paths = [] then misused c "missing operand" 1
    else
      let done ← forEach (fun path =>
        let all := if o.has 'p' then (pathPrefixes path).reverse else [path]
        removeDirectories c (o.has 'v') (o.has 'i') all) paths
      return codeFor done

/-- How files are removed. -/
structure Removal where
  /-- whether directories are removed with what they hold -/
  isDeep : Bool
  /-- whether files that are not there are no fault -/
  isForced : Bool
  /-- whether empty directories are removed -/
  takesEmpty : Bool
  /-- whether it is told -/
  isTold : Bool

/-- Removes a file, or a directory with what it holds. The fuel bounds how deeply it is nested. -/
def removeTree (c : Call) (r : Removal) : Nat → String → Program Bool
  | 0, _ => Program.diverge
  | fuel + 1, path => do
    match ← Program.ask (Unix.statusAt path false) with
    | .error errno =>
      if r.isForced && (errno = .noEntry || errno = .notDirectory) then return true
      else refused c ("cannot remove " ++ quotedAlways path) errno
    | .ok status =>
      let what := if status.kind = .directory then "removed directory " else "removed "
      let finish := fun (result : Except Errno Unit) => do
        match result with
        | .ok () =>
          if r.isTold then putLine c (what ++ quotedAlways path)
          return true
        | .error errno => refused c ("cannot remove " ++ quotedAlways path) errno
      if status.kind ≠ .directory then finish (← Program.ask (Unix.removeName path))
      else if r.isDeep then
        match ← namesIn path with
        | .error errno => refused c ("cannot remove " ++ quotedAlways path) errno
        | .ok names =>
          let done ← forEach (fun name => removeTree c r fuel (inDirectory path name)) names
          if done then finish (← Program.ask (Unix.removeDirectory path)) else return false
      else if r.takesEmpty then finish (← Program.ask (Unix.removeDirectory path))
      else cannot c ("cannot remove " ++ quotedAlways path ++ ": Is a directory")

/-- Removes files. -/
def rm : Utility :=
  withOptions [flag 'r' ["recursive"], flag 'R' [], flag 'f' ["force"], flag 'i' [], flag 'I' [],
    flag 'd' ["dir"], flag 'v' ["verbose"], named 'P' ["no-preserve-root"] .without,
    named 'p' ["preserve-root"] .optional] 1 fun c o paths => do
    let r : Removal := ⟨o.hasAny ['r', 'R'], o.has 'f', o.has 'd', o.has 'v'⟩
    if paths = [] then if r.isForced then return 0 else misused c "missing operand" 1
    else
      let done ← forEach (fun path => do
        let name := lastName path
        if r.isDeep && (name = "." || name = "..") then
          cannot c ("refusing to remove '.' or '..' directory: skipping " ++ quotedAlways path)
        else removeTree c r depthLimit path) paths
      return codeFor done

/-! ## Times -/

/-- The days from the beginning of 1970 to a date. -/
def daysTo (year : Int) (month day : Nat) : Int :=
  let y := if month ≤ 2 then year - 1 else year
  let era := y.fdiv 400
  let yearOfEra := (y - era * 400).toNat
  let fromMarch := (month + 9) % 12
  let dayOfYear := (153 * fromMarch + 2) / 5 + day - 1
  let dayOfEra := yearOfEra * 365 + yearOfEra / 4 - yearOfEra / 100 + dayOfYear
  era * 146097 + (dayOfEra : Int) - 719468

/-- The seconds from the beginning of 1970 to a moment. -/
def secondsTo (year : Int) (month day hour minute second : Nat) : Int :=
  daysTo year month day * 86400 + ((hour * 3600 + minute * 60 + second : Nat) : Int)

/-- The numbers of digits at the places of a text. -/
def numbersAt (widths : List Nat) (cs : List Char) : Option (List Nat) :=
  match widths with
  | [] => if cs = [] then some [] else none
  | width :: rest => do
    let own := cs.take width
    if own.length = width && own.all Char.isDigit then
      return digitsOf own :: (← numbersAt rest (cs.drop width))
    else none

/-- The moment that digits stand for, in seconds since the beginning of 1970. -/
def stampOf? (text : String) : Option Int := do
  let (digits, second) ← match Text.splitAt '.' text.toList with
    | [digits] => some (digits, 0)
    | [digits, second] => match numbersAt [2] second with
      | some [n] => some (digits, n)
      | _ => none
    | _ => none
  if digits.length = 12 then
    match ← numbersAt [4, 2, 2, 2, 2] digits with
    | [y, mo, d, h, mi] => some (secondsTo y mo d h mi second)
    | _ => none
  else if digits.length = 10 then
    match ← numbersAt [2, 2, 2, 2, 2] digits with
    | [y, mo, d, h, mi] => some (secondsTo (if y < 69 then 2000 + y else 1900 + y) mo d h mi second)
    | _ => none
  else none

/-- The moment that a date stands for, in seconds since the beginning of 1970. -/
def dateOf? (text : String) : Option Int :=
  match text.toList with
  | '@' :: cs =>
    let (negative, cs) := match cs with
      | '-' :: rest => (true, rest)
      | _ => (false, cs)
    if cs ≠ [] && cs.all Char.isDigit then
      let n : Int := (digitsOf cs : Nat)
      some (if negative then -n else n)
    else none
  | cs =>
    let cs := cs.map fun c => if c = 'T' then ' ' else c
    let cs := cs.filter fun c => c ≠ 'Z'
    let parts := (Text.splitAt ' ' cs).filter (· ≠ [])
    let parts := parts.filter fun part => part ≠ "UTC".toList
    let numbers : Char → List Char → Option (List Nat) := fun separator part =>
      (Text.splitAt separator part).mapM fun digits =>
        if digits ≠ [] && digits.all Char.isDigit then some (digitsOf digits) else none
    match parts with
    | [date] =>
      match numbers '-' date with
      | some [y, mo, d] => some (secondsTo (y : Nat) mo d 0 0 0)
      | _ => none
    | [date, time] =>
      match numbers '-' date, numbers ':' time with
      | some [y, mo, d], some [h, mi] => some (secondsTo (y : Nat) mo d h mi 0)
      | some [y, mo, d], some [h, mi, s] => some (secondsTo (y : Nat) mo d h mi s)
      | _, _ => none
    | _ => none

/-- Sets the time of files, which are made if they are not there. -/
def touch : Utility :=
  withOptions [flag 'a' [], flag 'm' [], flag 'c' ["no-create"], valued 'd' ["date"],
    valued 't' [], valued 'r' ["reference"], flag 'f' [], flag 'h' ["no-dereference"]] 1
    fun c o paths => do
    let now ← Program.askD 0 Unix.timeNow
    let parts := fun (seconds : Int) => seconds * (Unix.second : Int)
    let wrong := fun (text : String) => misused c ("invalid date format " ++ quotedText text) 1
    let time? ← match o.value? 'd', o.value? 't', o.value? 'r' with
      | some text, _, _ => pure ((dateOf? text).map parts)
      | none, some text, _ => pure ((stampOf? text).map parts)
      | none, none, some path => do pure ((← statusOf path true).map (·.modified))
      | none, none, none => pure (some now)
    match time? with
    | none => wrong ((o.value? 'd').getD ((o.value? 't').getD ""))
    | some time =>
      if paths = [] then misused c "missing file operand" 1
      else
        let done ← forEach (fun path => do
          let isThere ← statusOf path (!o.has 'h')
          let opened ← match isThere with
            | some _ => pure (Except.ok ())
            | none =>
              if o.hasAny ['c', 'h'] then pure (.error .noEntry)
              else match ← Program.ask (Unix.openFile path .forAppending) with
                | .ok n => do
                  Program.request (Unix.close n)
                  pure (.ok ())
                | .error errno => pure (.error errno)
          match opened with
          | .ok () =>
            if !(o.has 'a' && !o.has 'm') then
              Program.request (Unix.setTime path (!o.has 'h') time)
            return true
          | .error errno =>
            if o.has 'c' && errno = .noEntry then return true
            else refused c ("cannot touch " ++ quotedAlways path) errno) paths
        return codeFor done

/-! ## Copying -/

/-- How files are copied. -/
structure Copying where
  /-- whether directories are copied with what they hold -/
  isDeep : Bool
  /-- whether permissions and times are copied too -/
  keeps : Bool
  /-- whether links are copied as links -/
  keepsLinks : Bool
  /-- whether files that are there stay -/
  spares : Bool
  /-- whether only older files are replaced -/
  updates : Bool
  /-- whether what cannot be written is replaced -/
  isForced : Bool
  /-- whether it is told -/
  isTold : Bool
  /-- whether further names are made, or links -/
  links : Option Char

/-- Copies the content of a file. -/
def copyContent (c : Call) (p : Copying) (source goal : String) (status : Status) :
    Program Bool := do
  match ← contentOf source with
  | .error errno => refused c ("cannot open " ++ quotedAlways source ++ " for reading") errno
  | .ok text =>
    let isNew := (← statusOf goal true).isNone
    let first ← writeFile goal text false
    let written ← match first with
      | .error _ =>
        if p.isForced && !isNew then do
          Program.request (Unix.removeName goal)
          writeFile goal text false
        else pure first
      | .ok () => pure first
    match written with
    | .error errno =>
      refused c ("cannot create regular file " ++ quotedAlways goal) errno
    | .ok () =>
      let mask ← Program.askD 0 Unix.ownMask
      let masked := status.mode - (status.mode &&& mask)
      if p.keeps then
        Program.request (Unix.setMode goal status.mode)
        Program.request (Unix.setTime goal true status.modified)
      else if isNew then Program.request (Unix.setMode goal (masked % 0o1000))
      return true

/-- Copies a file, or a directory with what it holds. The fuel bounds how deeply it is nested. -/
def copyTree (c : Call) (p : Copying) : Nat → String → String → Program Bool
  | 0, _, _ => Program.diverge
  | fuel + 1, source, goal => do
    match ← Program.ask (Unix.statusAt source (!p.keepsLinks)) with
    | .error errno => refused c ("cannot stat " ++ quotedAlways source) errno
    | .ok status =>
      let there? ← statusOf goal true
      let isSame := (there?.map (·.number)) = some status.number
      let told : Program Unit :=
        if p.isTold then putLine c (quotedAlways source ++ " -> " ++ quotedAlways goal) else pure ()
      let isSpared := match there? with
        | some there => p.spares || (p.updates && status.modified ≤ there.modified)
        | none => false
      match status.kind with
      | .directory =>
        if !p.isDeep then
          cannot c ("-r not specified; omitting directory " ++ quotedAlways source)
        else
          match there? with
          | some there =>
            if there.kind ≠ .directory then
              cannot c ("cannot overwrite non-directory " ++ quotedAlways goal ++
                " with directory " ++ quotedAlways source)
            else copyEntries fuel source goal
          | none =>
            let parent := directoryName goal
            let inside ← isInside depthLimit status.number parent
            match ← Program.ask (Unix.makeDirectory goal 0o777) with
            | .error errno => refused c ("cannot create directory " ++ quotedAlways goal) errno
            | .ok () =>
              told
              if inside then
                Program.request (Unix.removeDirectory goal)
                cannot c ("cannot copy a directory, " ++ quotedAlways source ++
                  ", into itself, " ++ quotedAlways goal)
              else
                let done ← copyEntries fuel source goal
                if p.keeps then
                  Program.request (Unix.setMode goal status.mode)
                  Program.request (Unix.setTime goal true status.modified)
                return done
      | kind =>
        if isSpared then return true
        else if isSame then
          cannot c (quotedAlways source ++ " and " ++ quotedAlways goal ++ " are the same file")
        else if (there?.map (·.kind)) = some .directory then
          cannot c ("cannot overwrite directory " ++ quotedAlways goal ++ " with non-directory " ++
            quotedAlways source)
        else
          let result ← match p.links, kind with
            | some 'l', _ => do
              match ← Program.ask (Unix.addName source goal) with
              | .ok () => pure true
              | .error errno =>
                refused c ("cannot create hard link " ++ quotedAlways goal ++ " to " ++
                  quotedAlways source) errno
            | some _, _ => do
              match ← Program.ask (Unix.makeLink source goal) with
              | .ok () => pure true
              | .error errno =>
                refused c ("cannot create symbolic link " ++ quotedAlways goal ++ " to " ++
                  quotedAlways source) errno
            | none, .link => do
              let target ← Program.askD "" (Unix.targetOf source)
              Program.request (Unix.removeName goal)
              match ← Program.ask (Unix.makeLink target goal) with
              | .ok () => pure true
              | .error errno =>
                refused c ("cannot create symbolic link " ++ quotedAlways goal) errno
            | none, _ => copyContent c p source goal status
          if result then told
          return result
where
  /-- Copies what a directory holds. -/
  copyEntries (fuel : Nat) (source goal : String) : Program Bool := do
    match ← namesIn source with
    | .error errno => refused c ("cannot access " ++ quotedAlways source) errno
    | .ok names =>
      forEach (fun name =>
        copyTree c p fuel (inDirectory source name) (inDirectory goal name)) names
  /-- Whether a directory lies in the one with a number. -/
  isInside : Nat → Nat → String → Program Bool
    | 0, _, _ => return false
    | fuel + 1, number, path => do
      match ← statusOf path true, ← statusOf "/" true with
      | some status, some top =>
        if status.number = number then return true
        else if status.number = top.number then return false
        else isInside fuel number (inDirectory path "..")
      | _, _ => return false

/-- The goals of sources: in a directory, or a name for the only one. Or what is wrong, and whether
help is to be told of. -/
def goalsOf (options : Options) (paths : List String) :
    Program (Except (String × Bool) (List (String × String))) := do
  let into := fun (directory : String) (sources : List String) =>
    sources.map fun source => (source, inDirectory directory (lastName source))
  match options.value? 't' with
  | some directory =>
    if paths = [] then return .error ("missing file operand", true)
    else return .ok (into directory paths)
  | none =>
    match paths.reverse with
    | [] => return .error ("missing file operand", true)
    | [source] =>
      return .error ("missing destination file operand after " ++ quotedAlways source, true)
    | goal :: sources =>
      let sources := sources.reverse
      let status? ← statusOf goal true
      let isInto := (status?.map (·.kind)) = some .directory && !options.has 'T'
      if isInto then return .ok (into goal sources)
      else
        match sources with
        | [source] => return .ok [(source, goal)]
        | _ =>
          if options.has 'T' then
            return .error ("extra operand " ++ quotedAlways goal, true)
          else
            let why := if status?.isSome then "Not a directory" else "No such file or directory"
            return .error ("target " ++ quotedAlways goal ++ ": " ++ why, false)

/-- The options of programs that bring files to other places. -/
def placingOptions : List OptionSpec :=
  [flag 'f' ["force"], flag 'i' ["interactive"], flag 'n' ["no-clobber"], flag 'v' ["verbose"],
    flag 'T' ["no-target-directory"], valued 't' ["target-directory"], flag 'u' ["update"]]

/-- Does something with sources and goals. -/
def forPlaces (c : Call) (o : Options) (paths : List String)
    (use : String × String → Program Bool) : Program Nat := do
  match ← goalsOf o paths with
  | .error (message, true) => misused c message 1
  | .error (message, false) => failing c message 1
  | .ok places => return codeFor (← forEach use places)

/-- Copies files. -/
def cp : Utility :=
  withOptions (placingOptions ++ [flag 'r' ["recursive"], flag 'R' [], flag 'a' ["archive"],
    flag 'p' [], named 'q' ["preserve"] .optional, flag 'd' [], flag 'P' ["no-dereference"],
    flag 'L' ["dereference"], flag 'H' [], flag 'l' ["link"], flag 's' ["symbolic-link"]]) 1
    fun c o paths => do
    let isDeep := o.hasAny ['r', 'R', 'a']
    let p : Copying :=
      { isDeep
        keeps := o.hasAny ['p', 'q', 'a']
        keepsLinks :=
          (isDeep || o.hasAny ['d', 'P']) && o.last? ['L', 'H', 'P', 'd', 'a'] ≠ some 'L'
        spares := o.last? ['n', 'f', 'i'] = some 'n'
        updates := o.has 'u'
        isForced := o.has 'f'
        isTold := o.has 'v'
        links := o.last? ['l', 's'] }
    forPlaces c o paths fun (source, goal) => copyTree c p depthLimit source goal

/-- Moves a file. -/
def moveFile (c : Call) (o : Options) (source goal : String) : Program Bool := do
  match ← Program.ask (Unix.statusAt source false) with
  | .error errno => refused c ("cannot stat " ++ quotedAlways source) errno
  | .ok status =>
    let there? ← statusOf goal false
    let isSpared := match there? with
      | some there => o.last? ['n', 'f', 'i'] = some 'n' ||
        (o.has 'u' && status.modified ≤ there.modified)
      | none => false
    let isSame := (there?.map (·.number)) = some status.number
    if isSpared then return true
    else if isSame then
      cannot c (quotedAlways source ++ " and " ++ quotedAlways goal ++ " are the same file")
    else
      match ← Program.ask (Unix.rename source goal) with
      | .ok () =>
        if o.has 'v' then
          putLine c ("renamed " ++ quotedAlways source ++ " -> " ++ quotedAlways goal)
        return true
      | .error .invalid =>
        cannot c ("cannot move " ++ quotedAlways source ++ " to a subdirectory of itself, " ++
          quotedAlways goal)
      | .error .isDirectory =>
        cannot c ("cannot overwrite directory " ++ quotedAlways goal ++ " with non-directory")
      | .error .notDirectory =>
        let message := if there?.isSome then
            "cannot overwrite non-directory " ++ quotedAlways goal ++ " with directory " ++
              quotedAlways source
          else
            "cannot move " ++ quotedAlways source ++ " to " ++ quotedAlways goal ++
              ": Not a directory"
        cannot c message
      | .error errno =>
        refused c ("cannot move " ++ quotedAlways source ++ " to " ++ quotedAlways goal) errno

/-- Moves files. -/
def mv : Utility :=
  withOptions placingOptions 1 fun c o paths =>
    forPlaces c o paths fun (source, goal) => do
      if (← isDirectory source) && lastName source ≠ "" then
        let inside := fun (s : String) => s.startsWith (Unix.withoutSlashes source ++ "/")
        if inside goal && (← statusOf goal false).isNone then
          cannot c ("cannot move " ++ quotedAlways source ++ " to a subdirectory of itself, " ++
            quotedAlways goal)
        else moveFile c o source goal
      else moveFile c o source goal

/-- Makes links. -/
def ln : Utility :=
  withOptions [flag 's' ["symbolic"], flag 'f' ["force"], flag 'n' ["no-dereference"],
    flag 'v' ["verbose"], flag 'T' ["no-target-directory"], valued 't' ["target-directory"],
    flag 'i' [], flag 'P' [], flag 'L' [], flag 'r' ["relative"]] 1 fun c o paths => do
    let isSoft := o.has 's'
    let kind := if isSoft then "symbolic" else "hard"
    let link := fun (place : String × String) => do
      let (target, path) := place
      if o.has 'f' && target ≠ path then Program.request (Unix.removeName path)
      let status? ← if isSoft then pure none else statusOf target false
      match isSoft, status? with
      | false, none => refused c ("failed to access " ++ quotedAlways target) .noEntry
      | _, _ =>
        if (status?.map (·.kind)) = some .directory then
          cannot c (quotedName target ++ ": hard link not allowed for directory")
        else
          let made ← if isSoft then Program.ask (Unix.makeLink target path)
            else Program.ask (Unix.addName target path)
          match made with
          | .ok () =>
            if o.has 'v' then
              putLine c (quotedAlways path ++ (if isSoft then " -> " else " => ") ++
                quotedAlways target)
            return true
          | .error errno =>
            let behind := if !isSoft && errno ≠ .alreadyExists then " => " ++ quotedAlways target
              else ""
            refused c ("failed to create " ++ kind ++ " link " ++ quotedAlways path ++ behind) errno
    match paths with
    | [target] =>
      if o.has 't' then forPlaces c o paths link
      else return codeFor (← link (target, lastName target))
    | [target, path] =>
      let keepsLink := o.has 'n' && ((← statusOf path false).map (·.kind)) = some .link
      if keepsLink then return codeFor (← link (target, path)) else forPlaces c o paths link
    | _ => forPlaces c o paths link

/-! ## Permissions -/

/-- Changes the permissions of a file, and of what a directory holds. -/
def changeTree (c : Call) (o : Options) (text : String) (mask : Nat) : Nat → String → Program Bool
  | 0, _ => Program.diverge
  | fuel + 1, path => do
    match ← Program.ask (Unix.statusAt path true) with
    | .error errno =>
      if o.has 'f' then return false else refused c ("cannot access " ++ quotedAlways path) errno
    | .ok status =>
      let isDir := status.kind = .directory
      match Unix.ModeChange.apply ⟨isDir, mask⟩ status.mode text with
      | none => return false
      | some mode =>
        Program.request (Unix.setMode path mode)
        let shownMode := fun (m : Nat) => Unix.octalText 4 m ++ " (" ++ Unix.modeText m ++ ")"
        if mode ≠ status.mode then
          if o.hasAny ['v', 'c'] then
            putLine c ("mode of " ++ quotedAlways path ++ " changed from " ++
              shownMode status.mode ++ " to " ++ shownMode mode)
        else if o.has 'v' then
          putLine c ("mode of " ++ quotedAlways path ++ " retained as " ++ shownMode mode)
        if isDir && o.has 'R' then
          match ← namesIn path with
          | .error errno => refused c ("cannot read directory " ++ quotedAlways path) errno
          | .ok names =>
            forEach (fun name => changeTree c o text mask fuel (inDirectory path name)) names
        else return true

/-- Arguments in which a mode that takes permissions away is no option. -/
def guardMode : List String → List String
  | [] => []
  | argument :: rest =>
    match argument.toList with
    | '-' :: ch :: _ =>
      if "rwxXstugo".toList.contains ch then "--" :: argument :: rest
      else argument :: guardMode rest
    | _ => argument :: rest

/-- Changes the permissions of files. -/
def chmod : Utility := fun c =>
  withOptions [flag 'R' ["recursive"], flag 'v' ["verbose"], flag 'c' ["changes"],
    flag 'f' ["silent", "quiet"], named 'e' ["reference"] .required] 1 (fun c o arguments => do
    let mask ← Program.askD 0 Unix.ownMask
    match arguments with
    | [] => misused c "missing operand" 1
    | [text] => misused c ("missing operand after " ++ quotedText text) 1
    | text :: paths =>
      if (Unix.ModeChange.apply ⟨false, mask⟩ 0 text).isNone then
        misused c ("invalid mode: " ++ quotedText text) 1
      else return codeFor (← forEach (changeTree c o text mask depthLimit) paths))
    { c with arguments := guardMode c.arguments }

/-! ## Other programs -/

/-- Writes the targets of links. -/
def readlink : Utility :=
  withOptions [flag 'f' ["canonicalize"], flag 'e' ["canonicalize-existing"],
    flag 'm' ["canonicalize-missing"], flag 'n' ["no-newline"], flag 'q' ["quiet"], flag 's' [],
    flag 'v' ["verbose"], flag 'z' ["zero"]] 1 fun c o paths => do
    let stop := if o.has 'z' then "\x00" else if o.has 'n' && paths.length = 1 then "" else "\n"
    if paths = [] then misused c "missing operand" 1
    else
      let done ← forEach (fun path => do
        let isThere := (← statusOf path true).isSome
        let found ← if o.hasAny ['f', 'e', 'm'] then
            if o.has 'e' && !isThere then pure (.error Errno.noEntry)
            else Program.ask (Unix.realPath path)
          else Program.ask (Unix.targetOf path)
        match found with
        | .ok text =>
          put c (text ++ stop)
          return true
        | .error errno =>
          if o.has 'v' then complain c (fileFault path errno)
          return false) paths
      return codeFor done

/-- Writes paths from the root, without links. -/
def realpath : Utility :=
  withOptions [flag 'e' ["canonicalize-existing"], flag 'm' ["canonicalize-missing"],
    flag 'q' ["quiet"], flag 's' ["strip", "no-symlinks"], flag 'z' ["zero"]] 1 fun c o paths => do
    if paths = [] then misused c "missing operand" 1
    else
      let stop := if o.has 'z' then "\x00" else "\n"
      let done ← forEach (fun path => do
        let isThere := (← statusOf path true).isSome
        let found ← if o.has 'e' && !isThere then pure (.error Errno.noEntry)
          else Program.ask (Unix.realPath path)
        match found with
        | .ok text =>
          put c (text ++ stop)
          return true
        | .error errno =>
          if !o.has 'q' then complain c (fileFault path errno)
          return false) paths
      return codeFor done

/-- Makes files as long as asked for. -/
def truncate : Utility :=
  withOptions [valued 's' ["size"], flag 'c' ["no-create"]] 1 fun c o paths => do
    match o.value? 's' with
    | none => misused c "you must specify either '--size' or '--reference'" 1
    | some text =>
      let cs := text.toList
      let sign := (cs.head?.filter fun ch => "+-<>".toList.contains ch)
      let digits := if sign.isSome then cs.drop 1 else cs
      match amount? (String.ofList digits) with
      | none => failing c ("Invalid number: " ++ quotedText text) 1
      | some n =>
        let done ← forEach (fun path => do
          if o.has 'c' && (← statusOf path true).isNone then return true
          else
            let old := ((← contentOf path).toOption).getD ""
            let size := match sign with
              | some '+' => old.length + n
              | some '-' => old.length - n
              | some '<' => min old.length n
              | some '>' => max old.length n
              | _ => n
            let zeros := List.replicate (size - old.length) '\x00'
            match ← writeFile path (String.ofList (old.toList.take size ++ zeros)) false with
            | .ok () => return true
            | .error errno =>
              refused c ("cannot open " ++ quotedAlways path ++ " for writing") errno) paths
        return codeFor done

/-- The letters of names that nobody has used yet. -/
def nameLetters : List Char :=
  "ABCDEFGHIJKLMNOPQRSTUVWXYZabcdefghijklmnopqrstuvwxyz0123456789".toList

/-- As many letters as asked for that a number stands for. -/
def lettersFor : Nat → Nat → List Char
  | 0, _ => []
  | count + 1, n =>
    nameLetters.getD (n % nameLetters.length) 'A' ::
      lettersFor count (n / nameLetters.length + 7919 * (n % 101) + 31)

/-- Makes a file or a directory with a name that nothing has. The fuel bounds how often that is
tried. -/
def makeFresh (directory : Bool) (front : String) (count : Nat) (suffix : String) :
    Nat → Nat → Program (Except Errno String)
  | 0, _ => return .error .alreadyExists
  | fuel + 1, seed => do
    let path := front ++ String.ofList (lettersFor count seed) ++ suffix
    let made ← if directory then Program.ask (Unix.makeDirectory path 0o700)
      else match ← Program.ask (Unix.openFile path .forCreating) with
        | .ok n => do
          Program.request (Unix.close n)
          Program.request (Unix.setMode path 0o600)
          pure (.ok ())
        | .error errno => pure (.error errno)
    match made with
    | .ok () => return .ok path
    | .error .alreadyExists => makeFresh directory front count suffix fuel (seed + 12345)
    | .error errno => return .error errno

/-- Makes a file or a directory with a new name. -/
def mktemp : Utility :=
  withOptions [flag 'd' ["directory"], flag 'u' ["dry-run"], flag 'q' ["quiet"], flag 't' [],
    ⟨'p', ["tmpdir"], .required, true⟩, named 's' ["suffix"] .required] 1 fun c o rest => do
    let template := rest.headD "tmp.XXXXXXXXXX"
    let inTemporary := rest = [] || o.hasAny ['p', 't']
    let temporary := (o.value? 'p').getD ((c.environment.lookup "TMPDIR").getD "/tmp")
    let marks := (template.toList.reverse.dropWhile (· ≠ 'X')).takeWhile (· = 'X')
    let suffix := String.ofList (template.toList.reverse.takeWhile (· ≠ 'X')).reverse
    let suffix := suffix ++ (o.value? 's').getD ""
    let front := String.ofList ((template.toList.reverse.dropWhile (· ≠ 'X')).dropWhile
      (· = 'X')).reverse
    let front := if inTemporary then inDirectory temporary front else front
    if marks.length < 3 then failing c ("too few X's in template " ++ quotedText template) 1
    else
      let seed := 1000003 * (← Program.askD 0 Unix.elapsed) + 7907 * (← Program.askD 0 Unix.ownPid)
      match ← makeFresh (o.has 'd') front marks.length suffix 100 seed with
      | .ok path =>
        if o.has 'u' then
          if o.has 'd' then Program.request (Unix.removeDirectory path)
          else Program.request (Unix.removeName path)
        putLine c path
        return 0
      | .error errno =>
        let kind := if o.has 'd' then "directory" else "file"
        failing c ("failed to create " ++ kind ++ " via template " ++
          quotedText (front ++ String.ofList marks ++ suffix) ++ ": " ++ errno.words) 1

end Shipyard.Utility
