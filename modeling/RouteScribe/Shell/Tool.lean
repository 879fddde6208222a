import RouteScribe.Shell.Print
import RouteScribe.Text.Search

/-!
# File commands

The commands that show, copy, move, create and remove files, and those that test
and count.
-/

namespace RouteScribe.Shell

open RouteScribe.Project RouteScribe.Text

def splitOptions (operands : List String) : List Char × List String :=
  let options := operands.takeWhile fun operand =>
    operand.toList.head? = some '-' && operand ≠ "-" && operand ≠ "--"
  let rest := operands.drop options.length
  (options.flatMap fun option => option.toList.drop 1,
    if rest.head? = some "--" then rest.tail else rest)

/-- A report on how a command is used wrongly. -/
def usage (disk : Disk) (tool report : String) : Effect :=
  (Effect.complain disk 1 (tool ++ ": " ++ report)).andThen fun disk =>
    .complain disk 1 ("Try '" ++ tool ++ " --help' for more information.")

/-- The bytes of a named file, or of the input for a single dash. -/
def contentOf (disk : Disk) (input : List UInt8) (name : String) :
    Except FileFault (List UInt8) :=
  if name = "-" then .ok input else disk.read (.ofString name)

def concatenate (disk : Disk) (input : List UInt8) (operands : List String) : Effect :=
  let (_, names) := splitOptions operands
  .forEach disk (if names.isEmpty then ["-"] else names) fun disk name =>
    match contentOf disk input name with
    | .ok content => .output disk content
    | .error fault => .complain disk 1 ("cat: " ++ name ++ ": " ++ fault.text)

/-- The target of a copy or a move: inside a directory, or the name itself. -/
def targetOf (disk : Disk) (source target : String) : Path :=
  let path := Path.ofString target
  if disk.isDirectory path then path.child (Path.ofString source).name else path

def install (disk : Disk) (path : Path) (node : Node) : Except FileFault Disk := do
  return disk.putAt (← disk.place path) node

def copyOne (recursive : Bool) (target : String) (disk : Disk) (source : String) : Effect :=
  let origin := Path.ofString source
  let goal := targetOf disk source target
  match disk.look origin with
  | .error fault => .complain disk 1 ("cp: cannot stat '" ++ source ++ "': " ++ fault.text)
  | .ok node =>
      if node.isDirectory && !recursive then
        .complain disk 1 ("cp: -r not specified; omitting directory '" ++ source ++ "'")
      else if (disk.place origin).toOption = (disk.place goal).toOption then
        .complain disk 1 ("cp: '" ++ source ++ "' and '" ++ goal.text ++ "' are the same file")
      else
        match install disk goal (node.restamp disk.clock) with
        | .ok disk => .done disk 0
        | .error fault =>
            .complain disk 1
              ("cp: cannot create regular file '" ++ goal.text ++ "': " ++ fault.text)

def moveOne (target : String) (disk : Disk) (source : String) : Effect :=
  let origin := Path.ofString source
  let goal := targetOf disk source target
  match disk.look origin with
  | .error fault => .complain disk 1 ("mv: cannot stat '" ++ source ++ "': " ++ fault.text)
  | .ok node =>
      if (disk.place origin).toOption = (disk.place goal).toOption then
        .complain disk 1 ("mv: '" ++ source ++ "' and '" ++ goal.text ++ "' are the same file")
      else if node.isDirectory && disk.isFile goal then
        .complain disk 1
          ("mv: cannot overwrite non-directory '" ++ goal.text ++ "' with directory '" ++ source ++
            "'")
      else
        match (do (← install disk goal node).remove origin : Except FileFault Disk) with
        | .ok disk => .done disk 0
        | .error fault =>
            .complain disk 1
              ("mv: cannot move '" ++ source ++ "' to '" ++ goal.text ++ "': " ++ fault.text)

def bring (tool : String) (act : (target : String) → Disk → String → Effect) (disk : Disk)
    (names : List String) : Effect :=
  match names, names.getLast? with
  | [], _ | _, none => usage disk tool "missing file operand"
  | [source], _ => usage disk tool ("missing destination file operand after '" ++ source ++ "'")
  | _, some target =>
      let sources := names.dropLast
      if 1 < sources.length && !disk.isDirectory (.ofString target) then
        .complain disk 1 (tool ++ ": target '" ++ target ++ "': " ++
          match disk.look (.ofString target) with
          | .ok _ => FileFault.text .notADirectory
          | .error fault => fault.text)
      else .forEach disk sources (act target)

def removeOne (recursive force : Bool) (disk : Disk) (name : String) : Effect :=
  let path := Path.ofString name
  let refuse (fault : FileFault) : Effect :=
    .complain disk 1 ("rm: cannot remove '" ++ name ++ "': " ++ fault.text)
  if disk.isDirectory path && !recursive then refuse .isADirectory
  else
    match disk.remove path with
    | .ok disk => .done disk 0
    | .error fault => if force && fault = .notFound then .done disk 0 else refuse fault

def makeOne (parents : Bool) (disk : Disk) (name : String) : Effect :=
  let refuse (disk : Disk) (fault : FileFault) : Effect :=
    .complain disk 1 ("mkdir: cannot create directory ‘" ++ name ++ "’: " ++ fault.text)
  if parents then
    match disk.ensureDirectory (.ofString name) with
    | (disk, .ok ()) => .done disk 0
    | (disk, .error error) => refuse disk error.fault
  else
    match disk.makeDirectory (.ofString name) with
    | .ok disk => .done disk 0
    | .error fault => refuse disk fault

/-- Sets the stamp of one file, and creates it if it is missing. -/
def touchOne (disk : Disk) (name : String) : Effect :=
  let path := Path.ofString name
  let touched : Except FileFault Disk := match disk.look path with
    | .ok _ => { disk with clock := disk.clock + 1 }.restamp path disk.clock
    | .error .notFound => disk.write path []
    | .error fault => .error fault
  match touched with
  | .ok disk => .done disk 0
  | .error fault => .complain disk 1 ("touch: cannot touch '" ++ name ++ "': " ++ fault.text)

/-- The number of lines, words and bytes of a content. -/
def countsOf (content : List UInt8) : Nat × Nat × Nat :=
  let isSpace (byte : UInt8) : Bool := byte = 0x20 || (0x09 ≤ byte && byte ≤ 0x0D)
  let starts := content.zip (0x20 :: content)
  (content.count 0x0A, (starts.filter fun (byte, before) => !isSpace byte && isSpace before).length,
    content.length)

/-- The `wc` command on one file. -/
def countOne (options : List Char) (disk : Disk) (input : List UInt8) (name : Option String) :
    Effect :=
  match contentOf disk input (name.getD "-") with
  | .error fault =>
      .complain disk 1 ("wc: " ++ name.getD "-" ++ ": " ++ fault.text)
  | .ok content =>
      let (lines, words, bytes) := countsOf content
      let all := options.isEmpty
      let numbers := (if all || options.contains 'l' then [lines] else []) ++
        (if all || options.contains 'w' then [words] else []) ++
        (if all || options.contains 'c' then [bytes] else [])
      let width := if numbers.length = 1 then 0 else if name.isNone then 7
        else (toString bytes).length
      let field (number : Nat) : String :=
        let text := toString number
        .ofList (List.replicate (width - text.length) ' ') ++ text
      .say disk (" ".intercalate (numbers.map field ++ name.toList) ++ "\n")

def contentLines (content : List UInt8) : List (List UInt8) :=
  let lines := content.splitOn 0x0A
  if lines.getLast? = some [] then lines.dropLast else lines

def occursInLine (part : List UInt8) : List UInt8 → Bool
  | [] => part.isEmpty
  | byte :: rest => part.isPrefixOf (byte :: rest) || occursInLine part rest

/-- The `grep` command with a pattern that stands for itself. -/
def searchLines (disk : Disk) (input : List UInt8) (operands : List String) : Effect :=
  let (options, operands) := splitOptions operands
  match operands with
  | [] => .complain disk 2 "Usage: grep [OPTION]... PATTERNS [FILE]..."
  | pattern :: names =>
      let wanted := Utf8.encode pattern.toList
      let files := if names.isEmpty then ["-"] else names
      let search (disk : Disk) (name : String) : Effect :=
        match contentOf disk input name with
        | .error fault => .complain disk 2 ("grep: " ++ name ++ ": " ++ fault.text)
        | .ok content =>
            let found := (contentLines content).filter fun line =>
              occursInLine wanted line != options.contains 'v'
            let shown :=
              if options.contains 'q' then []
              else if options.contains 'c' then Utf8.encode (toString found.length ++ "\n").toList
              else found.flatMap (· ++ [0x0A])
            { disk, written := [(.output, shown)], status := if found.isEmpty then 1 else 0 }
      .forEach disk files search

/-- The outcome of a test: whether it holds, or the operand that is no number. -/
def holds (disk : Disk) : List String → Except String Bool
  | [] => .ok false
  | [operand] => .ok (operand ≠ "")
  | ["!", operand] => .ok (operand = "")
  | [flag, operand] =>
      let path := Path.ofString operand
      match flag with
      | "-n" => .ok (operand ≠ "")
      | "-z" => .ok (operand = "")
      | "-d" => .ok (disk.isDirectory path)
      | "-f" => .ok (disk.isFile path)
      | "-s" => .ok (disk.isDirectory path ||
          match disk.read path with
          | .ok content => !content.isEmpty
          | .error _ => false)
      | _ => .ok (disk.look path).isOk
  | [left, sign, right] =>
      let compare (test : Int → Int → Bool) : Except String Bool :=
        match numeral? left, numeral? right with
        | some first, some second => .ok (test first second)
        | none, _ => .error left
        | _, none => .error right
      match sign with
      | "=" => .ok (left = right)
      | "!=" => .ok (left ≠ right)
      | "-eq" => compare fun first second => first = second
      | "-ne" => compare fun first second => first ≠ second
      | "-lt" => compare fun first second => first < second
      | "-le" => compare fun first second => first ≤ second
      | "-gt" => compare fun first second => first > second
      | "-ge" => compare fun first second => first ≥ second
      | _ => if left = "!" then (holds disk [sign, right]).map (!·) else .ok false
  | "!" :: operands => (holds disk operands).map (!·)
  | _ => .ok false

/-- The `test` command; reports start with `name`. -/
def testOperands (name tool : String) (disk : Disk) (operands : List String) : Effect :=
  match holds disk operands with
  | .ok true => .done disk 0
  | .ok false => .done disk 1
  | .error operand => .complain disk 2 (name ++ tool ++ ": Illegal number: " ++ operand)

/-- The `[` command, whose last operand closes the bracket. -/
def bracketTest (name : String) (disk : Disk) (operands : List String) : Effect :=
  if operands.getLast? = some "]" then testOperands name "[" disk operands.dropLast
  else .complain disk 2 (name ++ "[: missing ]")

/-- The effect of a command by its name; `none` if there is no such command.  Reports
of the shell itself start with `report`. -/
def runTool (report : String) (disk : Disk) (input : List UInt8) (tool : String)
    (operands : List String) : Option Effect :=
  let (options, names) := splitOptions operands
  match tool with
  | "true" | ":" | "sleep" | "sync" => some (.done disk 0)
  | "false" => some (.done disk 1)
  | "echo" => some (echo disk operands)
  | "printf" => some (printFormatted report disk operands)
  | "test" => some (testOperands report "test" disk operands)
  | "[" => some (bracketTest report disk operands)
  | "cat" => some (concatenate disk input operands)
  | "cp" =>
      let recursive := options.any "rRa".toList.contains
      some (bring "cp" (copyOne recursive) disk names)
  | "mv" => some (bring "mv" moveOne disk names)
  | "rm" =>
      let recursive := options.any "rR".toList.contains
      let force := options.contains 'f'
      if names.isEmpty && !force then some (usage disk "rm" "missing operand")
      else some (.forEach disk names (removeOne recursive force))
  | "mkdir" =>
      if names.isEmpty then some (usage disk "mkdir" "missing operand")
      else some (.forEach disk names (makeOne (options.contains 'p')))
  | "touch" =>
      if names.isEmpty then some (usage disk "touch" "missing file operand")
      else some (.forEach disk names touchOne)
  | "wc" =>
      if names.isEmpty then some (countOne options disk input none)
      else some (.forEach disk names fun disk name => countOne options disk input (some name))
  | "grep" => some (searchLines disk input operands)
  | _ => none

end RouteScribe.Shell
