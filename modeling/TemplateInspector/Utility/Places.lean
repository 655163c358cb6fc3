import TemplateInspector.Utility.Options

/-!
# Programs for files and directories

Files and directories are made, removed, copied, moved and listed, and paths are taken apart.
-/

namespace TemplateInspector.Utility

/-! ## What is at a path -/

/-- What a path leads to. -/
def nodeAt (path : List Char) : Act (Except FileError FileNode) := do
  let p ← get
  return p.files.find p.directory (Text.shown path)

/-- The place to which a path leads. -/
def placeAt (path : List Char) : Act (Except FileError Place) := do
  let p ← get
  return p.files.resolve p.directory (Text.shown path)

/-- Whether a path leads to a directory. -/
def leadsToDirectory (path : List Char) : Act Bool := do
  let p ← get
  return p.files.isDirectory p.directory (Text.shown path)

/-- Changes the files. -/
def changeFiles (change : FileTree → FileTree) : Act Unit :=
  modify fun p => { p with files := change p.files }

/-- A path without the slashes at its end. -/
def dropSlashes (path : List Char) : List Char :=
  (path.reverse.dropWhile (· = '/')).reverse

/-- What stands before the last segment of a path, and that segment. -/
def splitPath (path : List Char) : List Char × List Char :=
  let path := dropSlashes path
  let last := (path.reverse.takeWhile (· ≠ '/')).reverse
  (path.take (path.length - last.length), last)

/-- The last segment of a path; a slash if there are only slashes. -/
def lastSegment (path : List Char) : List Char :=
  let name := (splitPath path).2
  if name.isEmpty && !path.isEmpty then ['/'] else name

/-- A path behind a directory. -/
def joinPath (directory name : List Char) : List Char :=
  if directory.getLast? = some '/' then directory ++ name else directory ++ '/' :: name

/-- Complains about a path that something cannot be done with. -/
def complainAbout (verb : String) (path : List Char) (reason : List Char) : Act Unit :=
  complainWith 1 (("cannot " ++ verb ++ " ").toList ++ quotedName path ++ ": ".toList ++ reason)

/-! ## Making and removing -/

/-- Makes files that are missing. -/
def touch (arguments : List (List Char)) : Act Unit := do
  let a ← ({ plain := "acfhm", valued := "drt", long := [⟨"no-create", 'c', false⟩] } :
    OptionTable).read arguments
  if a.operands.isEmpty then refuse 1 "missing file operand".toList
  for path in a.operands do
    match ← nodeAt path with
    | .ok _ => pure ()
    | .error _ =>
      if !a.has 'c' then
        if let .error error ← writeFile path [] then
          complainWith 1 ("cannot touch ".toList ++ quotedName path ++ ": ".toList ++
            reasonOf error)

/-- The paths that lead to a path, from the first segment on. -/
def pathsTo (path : List Char) : List (List Char) :=
  let slashes := path.zipIdx.filterMap fun (c, i) => if c = '/' && 0 < i then some i else none
  (slashes.map path.take) ++ [path]

/-- Makes a directory. Yields whether it was missing. -/
def makeDirectory (path : List Char) (toleratesOld : Bool) : Act Bool := do
  let refused (reason : String) : Act Bool := do
    complainWith 1 ("cannot create directory ".toList ++ quotedName path ++ ": ".toList ++
      reason.toList)
    return false
  match ← nodeAt path with
  | .ok .directory => if toleratesOld then return false else refused "File exists"
  | .ok _ => refused "File exists"
  | .error .notFound =>
    match ← placeAt (dropSlashes path) with
    | .ok place =>
      changeFiles (·.put place .directory)
      return true
    | .error error => refused error.reason
  | .error error => refused error.reason

/-- The options of `mkdir`. -/
def mkdirOptions : OptionTable where
  plain := "pv"
  valued := "m"
  long := [⟨"parents", 'p', false⟩, ⟨"verbose", 'v', false⟩, ⟨"mode", 'm', true⟩]

/-- Makes directories. -/
def mkdir (arguments : List (List Char)) : Act Unit := do
  let a ← mkdirOptions.read arguments
  if a.operands.isEmpty then refuse 1 "missing operand".toList
  for path in a.operands do
    for path in if a.has 'p' then pathsTo path else [path] do
      if ← makeDirectory path (a.has 'p') then
        if a.has 'v' then
          printLine ((← get).title ++ ": created directory ".toList ++ quotedName path)

/-- Removes empty directories. -/
def rmdir (arguments : List (List Char)) : Act Unit := do
  let a ← ({ plain := "pv", long := [⟨"parents", 'p', false⟩] } : OptionTable).read arguments
  if a.operands.isEmpty then refuse 1 "missing operand".toList
  for path in a.operands do
    for path in if a.has 'p' then (pathsTo path).reverse else [path] do
      let refused (reason : List Char) : Act Unit :=
        complainWith 1 ("failed to remove ".toList ++ quotedName path ++ ": ".toList ++ reason)
      match ← placeAt path, ← nodeAt path with
      | .ok place, .ok .directory =>
        if ((← get).files.namesAt place).isEmpty then changeFiles (·.remove place)
        else refused "Directory not empty".toList
      | _, .ok _ => refused "Not a directory".toList
      | _, .error error => refused (reasonOf error)

/-- The options of `rm`. -/
def rmOptions : OptionTable where
  plain := "dfiIrRv"
  long := [⟨"force", 'f', false⟩, ⟨"recursive", 'r', false⟩, ⟨"dir", 'd', false⟩,
    ⟨"verbose", 'v', false⟩]

/-- Removes files, and directories if that is asked for. -/
def rm (arguments : List (List Char)) : Act Unit := do
  let a ← rmOptions.read arguments
  let isForced := a.has 'f'
  let isDeep := a.has 'r' || a.has 'R'
  if a.operands.isEmpty && !isForced then refuse 1 "missing operand".toList
  for path in a.operands do
    let refused (reason : List Char) : Act Unit := complainAbout "remove" path reason
    match ← placeAt path, ← nodeAt path with
    | .ok place, .ok .directory =>
      if isDeep && (lastSegment path = ['.'] || lastSegment path = ['.', '.']) then
        complainWith 1 ("refusing to remove '.' or '..' directory: skipping ".toList ++
          quotedName path)
      else if isDeep && place.isEmpty then
        complain ("it is dangerous to operate recursively on ".toList ++ quotedName path)
        complainWith 1 "use --no-preserve-root to override this failsafe".toList
      else if isDeep then changeFiles (·.prune place)
      else if !a.has 'd' then refused "Is a directory".toList
      else if ((← get).files.namesAt place).isEmpty then changeFiles (·.remove place)
      else refused "Directory not empty".toList
    | .ok place, .ok _ =>
      changeFiles (·.remove place)
      if a.has 'v' then printLine ("removed ".toList ++ quotedName path)
    | _, .error error =>
      if !(isForced && (error = .notFound || error = .notDirectory)) then refused (reasonOf error)
    | .error error, _ => refused (reasonOf error)

/-- Removes a file. -/
def unlink (arguments : List (List Char)) : Act Unit := do
  let a ← ({ plain := "" } : OptionTable).read arguments
  match a.operands with
  | [] => refuse 1 "missing operand".toList
  | _ :: extra :: _ => refuse 1 ("extra operand ".toList ++ quoted extra)
  | [path] =>
    let refused (reason : List Char) : Act Unit :=
      fail 1 ("cannot unlink ".toList ++ quotedName path ++ ": ".toList ++ reason)
    match ← placeAt path, ← nodeAt path with
    | .error error, _ | _, .error error => refused (reasonOf error)
    | _, .ok .directory => refused "Is a directory".toList
    | .ok place, .ok _ => changeFiles (·.remove place)

/-- Cuts files off at a size, or fills them up to it. -/
def truncate (arguments : List (List Char)) : Act Unit := do
  let a ← ({ plain := "co", valued := "rs", long := [⟨"size", 's', true⟩,
    ⟨"no-create", 'c', false⟩] } : OptionTable).read arguments
  let text ← match a.value? 's' with
    | none => refuse 1 "you must specify either '--size' or '--reference'".toList
    | some text => pure text
  let sign := text.head?.filter "+-".toList.contains
  let size ← match natural? (if sign.isSome then text.drop 1 else text) with
    | some size => pure size
    | none => fail 1 ("Invalid number: ".toList ++ quoted text)
  if a.operands.isEmpty then refuse 1 "missing file operand".toList
  for path in a.operands do
    let old ← match ← readSource path with
      | .ok old => pure (some old)
      | .error _ => pure none
    if old.isSome || !a.has 'c' then
      let old := old.getD []
      let size := match sign with
        | some '+' => old.length + size
        | some _ => old.length - size
        | none => size
      let text := old.take size ++ List.replicate (size - old.length) '\x00'
      if let .error error ← writeFile path text then
        complainWith 1 ("cannot open ".toList ++ quotedName path ++ " for writing: ".toList ++
          reasonOf error)

/-! ## Copying and moving -/

/-- Where several things go: a directory and the things, or a single thing and its new path. -/
def readTargets (a : Arguments) : Act (List (List Char × List Char)) := do
  let isWhole := a.has 'T'
  match a.value? 't', a.operands with
  | some directory, sources =>
    if sources.isEmpty then refuse 1 "missing file operand".toList
    else return sources.map fun source => (source, joinPath directory (lastSegment source))
  | none, [] => refuse 1 "missing file operand".toList
  | none, [source] =>
    refuse 1 ("missing destination file operand after ".toList ++ quotedName source)
  | none, [source, target] =>
    if !isWhole && (← leadsToDirectory target) then
      return [(source, joinPath target (lastSegment source))]
    else return [(source, target)]
  | none, operands =>
    let target := operands.getLast?.getD []
    match ← nodeAt target with
    | .ok .directory =>
      return operands.dropLast.map fun source => (source, joinPath target (lastSegment source))
    | .ok _ => fail 1 ("target ".toList ++ quotedName target ++ ": Not a directory".toList)
    | .error error =>
        fail 1 ("target ".toList ++ quotedName target ++ ": ".toList ++ reasonOf error)

/-- The options of `cp` and `mv`. -/
def transferOptions : OptionTable where
  plain := "abdfHilLnpPrRsTuvx"
  valued := "St"
  long := [⟨"recursive", 'r', false⟩, ⟨"archive", 'a', false⟩, ⟨"force", 'f', false⟩,
    ⟨"no-clobber", 'n', false⟩, ⟨"verbose", 'v', false⟩, ⟨"target-directory", 't', true⟩,
    ⟨"no-target-directory", 'T', false⟩]

/-- Copies a file to a path. -/
def copyFile (bytes : ByteArray) (isExecutable : Bool) (target : List Char) : Act Unit := do
  match ← placeAt target with
  | .error error => complainAbout "create regular file" target (reasonOf error)
  | .ok place =>
    match (← get).files.node? place with
    | some (.file _ old) => changeFiles (·.put place (.file bytes old))
    | some .sink => pure ()
    | some .directory =>
      complainWith 1 ("cannot overwrite directory ".toList ++ quotedName target ++
        " with non-directory".toList)
    | some (.utility _) => complainAbout "create regular file" target "Text file busy".toList
    | none =>
      if target.getLast? = some '/' then
        complainAbout "create regular file" target "Not a directory".toList
      else changeFiles (·.put place (.file bytes isExecutable))

/-- Copies files, and directories if that is asked for. -/
def cp (arguments : List (List Char)) : Act Unit := do
  let a ← transferOptions.read arguments
  let isDeep := ['r', 'R', 'a'].any a.has
  for (source, target) in ← readTargets a do
    match ← nodeAt source, ← placeAt source with
    | .error error, _ | _, .error error => complainAbout "stat" source (reasonOf error)
    | .ok .directory, .ok from_ =>
      if !isDeep then
        complainWith 1 ("-r not specified; omitting directory ".toList ++ quotedName source)
      else match ← placeAt target with
        | .error error => complainAbout "create directory" target (reasonOf error)
        | .ok place =>
          if from_.isPrefixOf place then
            complainWith 1 ("cannot copy a directory, ".toList ++ quotedName source ++
              ", into itself, ".toList ++ quotedName target)
          else match (← get).files.node? place with
            | some (.file ..) | some (.utility _) | some .sink =>
              complainWith 1 ("cannot overwrite non-directory ".toList ++ quotedName target ++
                " with directory ".toList ++ quotedName source)
            | _ => changeFiles fun files => files.graft place (files.branch from_)
    | .ok node, .ok from_ =>
      if (← placeAt target).toOption = some from_ then
        complainWith 1 (quotedName source ++ " and ".toList ++ quotedName target ++
          " are the same file".toList)
      else if a.has 'n' && (← nodeAt target).isOk then pure ()
      else
        match node with
        | .file bytes isExecutable => copyFile bytes isExecutable target
        | _ => copyFile .empty false target
        if a.has 'v' && (← get).status = 0 then
          printLine (quotedName source ++ " -> ".toList ++ quotedName target)

/-- Moves files and directories. -/
def mv (arguments : List (List Char)) : Act Unit := do
  let a ← transferOptions.read arguments
  for (source, target) in ← readTargets a do
    match ← nodeAt source, ← placeAt source with
    | .error error, _ | _, .error error => complainAbout "stat" source (reasonOf error)
    | .ok node, .ok from_ =>
      let isDirectory := match node with
        | .directory => true
        | _ => false
      match ← placeAt (dropSlashes target) with
      | .error error =>
        complainWith 1 ("cannot move ".toList ++ quotedName source ++ " to ".toList ++
          quotedName target ++
          ": ".toList ++ reasonOf error)
      | .ok place =>
        let old := (← get).files.node? place
        if isDirectory && from_.isPrefixOf place then
          complainWith 1 ("cannot move ".toList ++ quotedName source ++
            " to a subdirectory of itself, ".toList ++ quotedName target)
        else if place = from_ then
          complainWith 1 (quotedName source ++ " and ".toList ++ quotedName target ++
            " are the same file".toList)
        else match old, isDirectory with
          | some .directory, false =>
            complainWith 1 ("cannot overwrite directory ".toList ++ quotedName target ++
              " with non-directory".toList)
          | some (.file ..), true =>
            complainWith 1 ("cannot overwrite non-directory ".toList ++ quotedName target ++
              " with directory ".toList ++ quotedName source)
          | some .directory, true =>
            if ((← get).files.namesAt place).isEmpty then
              changeFiles fun files => (files.prune from_).graft place (files.branch from_)
            else
              complainWith 1 ("cannot overwrite ".toList ++ quotedName target ++
                ": Directory not empty".toList)
          | _, _ =>
            if !(a.has 'n' && old.isSome) then
              changeFiles fun files =>
                ((files.prune from_).remove place).graft place (files.branch from_)
              if a.has 'v' then
                printLine ("renamed ".toList ++ quotedName source ++ " -> ".toList ++
                  quotedName target)

/-- Makes further names for files; each is a copy. -/
def ln (arguments : List (List Char)) : Act Unit := do
  let a ← ({ plain := "bdfinrsTv", valued := "St" } : OptionTable).read arguments
  let a := match a.operands with
    | [source] => { a with operands := [source, ['.']] }
    | _ => a
  for (source, target) in ← readTargets a do
    let kind := if a.has 's' then "symbolic link" else "hard link"
    if (← nodeAt target).isOk && !a.has 'f' then
      complainWith 1 (("failed to create " ++ kind ++ " ").toList ++ quotedName target ++
        ": File exists".toList)
    else match ← nodeAt source with
      | .ok (.file bytes isExecutable) => copyFile bytes isExecutable target
      | .ok _ =>
        if !a.has 's' then
          complainWith 1 (quotedName source ++ ": hard link not allowed for directory".toList)
      | .error error =>
        if !a.has 's' then
          complainWith 1 ("failed to access ".toList ++ quotedName source ++ ": ".toList ++
            reasonOf error)

/-! ## Modes -/

/-- Whether a mode is changed to that of a program, or of none; the outer `none` marks a text that
is no mode. -/
def modeChange? (mode : List Char) : Option (Option Bool) :=
  if !mode.isEmpty && mode.all fun c => '0' ≤ c && c ≤ '7' then
    some (some ((mode.reverse.take 3).any fun c => c.toNat % 2 = 1))
  else
    let parts := (mode.splitOn ',').map fun part => part.dropWhile "ugoa".toList.contains
    let change? (part : List Char) : Option (Option Bool) :=
      match part with
      | operator :: letters =>
        if "+-=".toList.contains operator && letters.all "rwxXst".toList.contains then
          if letters.contains 'x' then some (some (operator ≠ '-'))
          else some (if operator = '=' then some false else none)
        else none
      | [] => none
    (parts.mapM change?).map fun changes => (changes.filterMap id).getLast?

/-- Changes the modes of files. -/
def chmod (arguments : List (List Char)) : Act Unit := do
  let isRemoval : List (List Char) → Bool
    | ('-' :: c :: _) :: _ => "rwxX".toList.contains c
    | _ => false
  let a ← if isRemoval arguments then pure { operands := arguments }
    else ({ plain := "cfvR", isOrdered := true } : OptionTable).read arguments
  match a.operands with
  | [] => refuse 1 "missing operand".toList
  | [mode] => refuse 1 ("missing operand after ".toList ++ quoted mode)
  | mode :: paths =>
    match modeChange? mode with
    | none => refuse 1 ("invalid mode: ".toList ++ quoted mode)
    | some change =>
      for path in paths do
        match ← nodeAt path, ← placeAt path with
        | .ok (.file bytes old), .ok place =>
          changeFiles (·.put place (.file bytes (change.getD old)))
        | .error error, _ | _, .error error => complainAbout "access" path (reasonOf error)
        | .ok _, .ok _ => pure ()

/-! ## Lists -/

/-- What marks the kind of what is at a place in a list. -/
def kindMark (a : Arguments) (node? : Option FileNode) : List Char :=
  match node? with
  | some .directory => if a.has 'p' || a.has 'F' then ['/'] else []
  | some (.file _ true) | some (.utility _) => if a.has 'F' then ['*'] else []
  | _ => []

/-- A line of a list: a name and what it leads to. -/
structure ListEntry where
  /-- The name. -/
  name : List Char
  /-- The place, if there is something. -/
  place : Place
  /-- What is there. -/
  node : FileNode

/-- The number of bytes of what is at a place; a directory has a block. -/
def ListEntry.size (entry : ListEntry) : Nat :=
  match entry.node with
  | .file bytes _ => bytes.size
  | .directory => 4096
  | .utility _ | .sink => 0

/-- The kilobytes of whole blocks. -/
def ListEntry.blocks (entry : ListEntry) : Nat :=
  (entry.size + 4095) / 4096 * 4

/-- The number of names of what is at a place: a directory has one more for itself and for each
directory in it. -/
def ListEntry.links (files : FileTree) (entry : ListEntry) : Nat :=
  match entry.node with
  | .directory => 2 + ((files.namesAt entry.place).filter fun name =>
      files.isDirectoryAt (entry.place ++ [name])).length
  | _ => 1

/-- The kind and the permissions of what is at a place. -/
def ListEntry.mode (entry : ListEntry) : List Char :=
  match entry.node with
  | .directory => "drwxr-xr-x".toList
  | .file _ true | .utility _ => "-rwxr-xr-x".toList
  | .file _ false => "-rw-r--r--".toList
  | .sink => "crw-rw-rw-".toList

/-- The lines for entries of a list. All files are of the same age. -/
def listLines (a : Arguments) (files : FileTree) (entries : List ListEntry) : List (List Char) :=
  let shown (entry : ListEntry) : List Char := entry.name ++ kindMark a (some entry.node)
  let isLong := a.has 'l' || a.has 'n'
  if !isLong then entries.map shown
  else
    let widest (texts : List (List Char)) : Nat := (texts.map List.length).foldl max 0
    let links := entries.map fun entry => digitsOf (entry.links files)
    let sizes := entries.map fun entry => digitsOf entry.size
    let owner := if a.has 'n' then "0 0".toList else "root root".toList
    (entries.zip (links.zip sizes)).map fun (entry, links_, size) =>
      [' '].intercalate [entry.mode, padLeft (widest links) links_, owner,
        padLeft (widest sizes) size, "Jan  1 00:00".toList, shown entry]

/-- The entries of the list of a directory. -/
def directoryEntries (a : Arguments) (files : FileTree) (place : Place) : List ListEntry :=
  let inner := (files.namesAt place).filterMap fun name =>
    (files.node? (place ++ [name])).map fun node => ⟨Text.bytesOf name, place ++ [name], node⟩
  let all : List ListEntry := if a.has 'a' then
      [⟨['.'], place, .directory⟩, ⟨['.', '.'], place.dropLast, .directory⟩] ++ inner
    else if a.has 'A' then inner
    else inner.filter fun entry => entry.name.head? ≠ some '.'
  let sorted := if a.has 'S' then all.mergeSort fun x y => y.size ≤ x.size else all
  if a.has 'r' then sorted.reverse else sorted

/-- The options of `ls`. -/
def lsOptions : OptionTable where
  plain := "1aAcCdfFghHiklLmnopqQrRsStuUvxX"
  valued := "Iw"
  long := [⟨"all", 'a', false⟩, ⟨"almost-all", 'A', false⟩, ⟨"directory", 'd', false⟩,
    ⟨"reverse", 'r', false⟩, ⟨"recursive", 'R', false⟩, ⟨"classify", 'F', false⟩]
  status := 2

/-- Lists a directory and, if that is asked for, those below it. `fuel` bounds the depth. -/
def listDirectory (a : Arguments) : Nat → Bool → Bool → List Char → Act Unit
  | 0, _, _, _ => return
  | fuel + 1, isHeaded, isFirst, path => do
    if let .ok place ← placeAt path then
      if isHeaded then print ((if isFirst then [] else ['\n']) ++ path ++ ":\n".toList)
      let files := (← get).files
      let entries := directoryEntries a files place
      if a.has 'l' || a.has 'n' then
        printLine ("total ".toList ++ digitsOf ((entries.map ListEntry.blocks).foldl (· + ·) 0))
      for line in listLines a files entries do printLine line
      if a.has 'R' then
        for name in files.namesAt place do
          if files.isDirectoryAt (place ++ [name]) &&
              (a.has 'a' || name.toList.head? ≠ some '.') then
            listDirectory a fuel true false (joinPath path (Text.bytesOf name))

/-- Lists directories and files. -/
def ls (arguments : List (List Char)) : Act Unit := do
  let a ← lsOptions.read arguments
  let paths := (if a.operands.isEmpty then [['.']] else a.operands).mergeSort fun x y =>
    Text.shown x ≤ Text.shown y
  let paths := if a.has 'r' then paths.reverse else paths
  let found ← paths.filterMapM fun path => do
    match ← nodeAt path with
    | .ok node => return some (path, node)
    | .error error =>
      complainWith 2 ("cannot access ".toList ++ quotedName path ++ ": ".toList ++ reasonOf error)
      return none
  let isShownInside (node : FileNode) : Bool := match node with
    | .directory => !a.has 'd'
    | _ => false
  let (directories, others) := found.partition fun entry => isShownInside entry.2
  let files := (← get).files
  let entries ← others.filterMapM fun (path, node) => do
    match ← placeAt path with
    | .ok place => return some (⟨path, place, node⟩ : ListEntry)
    | .error _ => return none
  for line in listLines a files entries do printLine line
  let _ ← directories.foldlM (fun isFirst (path, _) => do
    listDirectory a 64 (1 < paths.length || a.has 'R') isFirst path
    return false) others.isEmpty

/-! ## Paths -/

/-- A name without an ending, unless it is nothing else. -/
def dropEnding (ending name : List Char) : List Char :=
  if ending.isSuffixOf name && ending ≠ name then name.take (name.length - ending.length) else name

/-- Prints the last segments of paths. -/
def basename (arguments : List (List Char)) : Act Unit := do
  let a ← ({ plain := "az", valued := "s", isOrdered := true } : OptionTable).read arguments
  if a.has 'a' || a.has 's' then
    if a.operands.isEmpty then refuse 1 "missing operand".toList
    for path in a.operands do
      printLine (dropEnding ((a.value? 's').getD []) (lastSegment path))
  else match a.operands with
    | [] => refuse 1 "missing operand".toList
    | [path] => printLine (lastSegment path)
    | [path, ending] => printLine (dropEnding ending (lastSegment path))
    | _ :: _ :: extra :: _ => refuse 1 ("extra operand ".toList ++ quoted extra)

/-- A path without its last segment. -/
def parentPath (path : List Char) : List Char :=
  let before := dropSlashes (splitPath path).1
  if !before.isEmpty then before
  else if path.head? = some '/' then ['/']
  else ['.']

/-- Prints paths without their last segments. -/
def dirname (arguments : List (List Char)) : Act Unit := do
  let a ← ({ plain := "z" } : OptionTable).read arguments
  if a.operands.isEmpty then refuse 1 "missing operand".toList
  for path in a.operands do printLine (parentPath path)

/-- Prints the paths of places from the root. `isLoose` tells whether a path may lead nowhere at its
end, and `isQuiet` whether nothing is said of those that lead nowhere. -/
def printPlaces (paths : List (List Char)) (isLoose isQuiet : Bool) : Act Unit := do
  for path in paths do
    let refused (error : FileError) : Act Unit :=
      if isQuiet then setStatus 1 else complainWith 1 (nameReason path error)
    match ← placeAt path, ← nodeAt path with
    | .error error, _ => refused error
    | .ok place, node =>
      match node, isLoose with
      | .error error, false => refused error
      | _, _ => printLine (Text.bytesOf (Place.path place))

/-- Prints where paths lead. -/
def realpath (arguments : List (List Char)) : Act Unit := do
  let a ← ({ plain := "ePLsmqz" } : OptionTable).read arguments
  if a.operands.isEmpty then refuse 1 "missing operand".toList
  printPlaces a.operands (!a.has 'e') (a.has 'q')

/-- Prints where paths lead if that is asked for; nothing is a link. -/
def readlink (arguments : List (List Char)) : Act Unit := do
  let a ← ({ plain := "femnqsvz" } : OptionTable).read arguments
  if a.operands.isEmpty then refuse 1 "missing operand".toList
  if ['f', 'e', 'm'].any a.has then printPlaces a.operands (!a.has 'e') true else finish 1

/-- Prints the working directory. -/
def pwd (arguments : List (List Char)) : Act Unit := do
  let a ← ({ plain := "LP" } : OptionTable).read arguments
  if !a.operands.isEmpty then complain "ignoring non-option arguments".toList
  printLine (Text.bytesOf (Place.path (← get).directory))

/-- Makes a file or a directory of a name that is not taken. -/
def mktemp (arguments : List (List Char)) : Act Unit := do
  let a ← ({ plain := "dqtu", valued := "p" } : OptionTable).read arguments
  let template := a.operands.headD "/tmp/tmp.XXXXXXXXXX".toList
  let marks := (template.reverse.takeWhile (· = 'X')).length
  if marks < 3 then
    fail 1 ("too few X's in template ".toList ++ quoted template)
  let files := (← get).files
  let directory := (← get).directory
  let named (number : Nat) : List Char :=
    let digits := digitsOf number
    template.take (template.length - marks) ++
      List.replicate (marks - digits.length) 'a' ++ digits.take marks
  let free := (List.range 1000).find? fun number =>
    !(files.find directory (Text.shown (named number))).isOk
  let path := named (free.getD 0)
  if !a.has 'u' then
    if a.has 'd' then
      if let .ok place ← placeAt path then changeFiles (·.put place .directory)
    else if let .error error ← writeFile path [] then
      fail 1 ("failed to create file via template ".toList ++ quoted template ++ ": ".toList ++
        reasonOf error)
  printLine path

/-- Prints the paths of programs. -/
def which (arguments : List (List Char)) : Act Unit := do
  let a ← ({ plain := "as" } : OptionTable).read arguments
  let p ← get
  let directories := divide ':' ((p.environment.lookup "PATH".toList).getD [])
  if a.operands.isEmpty then setStatus 1
  for name in a.operands do
    let paths := if name.contains '/' then [name] else directories.map (joinPath · name)
    let found := paths.filter fun path =>
      match p.files.find p.directory (Text.shown path) with
      | .ok (.utility _) | .ok (.file _ true) => true
      | _ => false
    for path in if a.has 'a' then found else found.take 1 do printLine path
    if found.isEmpty then setStatus 1
where
  /-- The parts of a text between separators. -/
  divide (separator : Char) (text : List Char) : List (List Char) :=
    Path.divide separator text

end TemplateInspector.Utility
