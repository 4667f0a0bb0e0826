import ImportPolicy.Command.Grammar
import ImportPolicy.Text.Digit
import ImportPolicy.Text.Quoted

/-!
# Reading arguments

A row of arguments is read in two steps. First every argument is marked: it
is an option of the grammar, an option that nobody knows, or plain; behind
the argument `--` everything is plain. Long options may be cut short as long
as only one option is meant. Short options can be written together, and a
value can follow its option directly or behind an equals sign.

Then options and positional arguments are taken in turn. Plain arguments
before an option go to as many positional arguments as they can serve, and
an optional one that gets nothing then stays without a value. What is left
over is collected, not refused.

The outcome is a row of events in the order in which they take effect, with
the fault that ends it, if there is one: an event may end the program before
the fault is met.
-/

namespace ImportPolicy.Command

/-- What is wrong with the arguments. -/
inductive Fault where
  /-- An abbreviation stands for several options. -/
  | ambiguous (argument : String) (spellings : List String)
  /-- An option is without its value. -/
  | missingValue (flag : Flag)
  /-- An option that takes no value is given one. -/
  | ignoredValue (flag : Flag) (value : String)
  /-- A value is none of those that are allowed. -/
  | choice (argument value : String) (choices : List String)
  /-- Positional arguments are missing. -/
  | required (positionals : List Positional)
  /-- Some arguments are left over. -/
  | unrecognized (arguments : List String)
  deriving DecidableEq, Repr

/-- The wording of a fault. -/
def Fault.message : Fault → String
  | .ambiguous argument spellings =>
    "ambiguous option: " ++ argument ++ " could match " ++ String.intercalate ", " spellings
  | .missingValue flag => "argument " ++ flag.shown ++ ": expected one argument"
  | .ignoredValue flag value =>
    "argument " ++ flag.shown ++ ": ignored explicit argument " ++ Text.quoted value
  | .choice argument value choices =>
    "argument " ++ argument ++ ": invalid choice: " ++ Text.quoted value ++ " (choose from "
      ++ String.intercalate ", " (choices.map Text.quoted) ++ ")"
  | .required positionals =>
    "the following arguments are required: "
      ++ String.intercalate ", " (positionals.map Positional.shown)
  | .unrecognized arguments =>
    "unrecognized arguments: " ++ String.intercalate " " arguments

/-! ## Marks -/

/-- An option as it is written. -/
structure Written where
  /-- The option. -/
  flag : Flag
  /-- Whether the spelling is a short one. -/
  isShort : Bool
  /-- What is written together with it. -/
  attached : Option String
  deriving DecidableEq, Repr

/-- What an argument is. -/
inductive Mark where
  /-- An option, unless it is one that nobody knows. -/
  | option (known : Option Written)
  /-- Two dashes: all that follows is plain. -/
  | dashes
  | plain
  deriving DecidableEq, Repr

/-- An argument with its mark. -/
structure Marked where
  /-- The argument. -/
  text : String
  /-- What it is. -/
  mark : Mark
  deriving DecidableEq, Repr

namespace Mark

/-- Whether a spelling is a short one. -/
def isShort (spelling : String) : Bool := spelling.toList.drop 1 |>.head? |>.all (· ≠ '-')

/-- What stands before the first equals sign, and what stands behind it if
there is one. -/
def splitEquals (text : String) : String × Option String :=
  match text.toList.span (· ≠ '=') with
  | (before, _ :: behind) => (String.ofList before, some (String.ofList behind))
  | (_, []) => (text, none)

/-- Whether a text is a negative number: digits of any script, with a point
before the last of them at most. A line break may follow. -/
def isNegativeNumber (text : String) : Bool :=
  match text.toList with
  | '-' :: rest =>
    let rest := if rest.getLast? = some '\n' then rest.dropLast else rest
    match rest.span Text.isDigit with
    | (whole, []) => !whole.isEmpty
    | (_, '.' :: decimals) => !decimals.isEmpty && decimals.all Text.isDigit
    | _ => false
  | _ => false

/-- The options that an argument with one dash or two can stand for, each
with its spelling: a short option with what is written behind it, or the long
options that start so. -/
def candidates (g : Grammar) (text : String) : List (String × Written) :=
  if isShort text then
    let chars := text.toList
    let short := String.ofList (chars.take 2)
    ((g.flag? short).map fun flag =>
      (short, ⟨flag, true, some (String.ofList (chars.drop 2))⟩)).toList
  else
    let (start, attached) := splitEquals text
    (g.spellings.filter fun (spelling, _) => start.toList.isPrefixOf spelling.toList).map
      fun (spelling, flag) => (spelling, ⟨flag, false, attached⟩)

/-- An option that is written out, with its value behind an equals sign if
there is one. -/
def spelledOut? (g : Grammar) (text : String) : Option Written :=
  match g.flag? text with
  | some flag => some ⟨flag, isShort text, none⟩
  | none => match splitEquals text with
    | (spelling, some value) =>
      (g.flag? spelling).map fun flag => ⟨flag, isShort spelling, some value⟩
    | (_, none) => none

/-- The mark of an argument that starts with a dash and has more
characters. -/
def ofDashed (g : Grammar) (text : String) : Except Fault Mark :=
  match spelledOut? g text with
  | some written => .ok (.option (some written))
  | none => match candidates g text with
    | [(_, written)] => .ok (.option (some written))
    | [] =>
      if isNegativeNumber text || text.toList.contains ' ' then .ok .plain
      else .ok (.option none)
    | several => .error (.ambiguous text (several.map (·.1)))

/-- The mark of an argument before two dashes. -/
def ofString (g : Grammar) (text : String) : Except Fault Mark :=
  match text.toList with
  | '-' :: _ :: _ => ofDashed g text
  | _ => .ok .plain

end Mark

/-- Marks the arguments of a row. -/
def markAll (g : Grammar) : List String → Except Fault (List Marked)
  | [] => .ok []
  | text :: more =>
    if text = "--" then .ok (⟨text, .dashes⟩ :: more.map (⟨·, .plain⟩))
    else do
      let mark ← Mark.ofString g text
      let later ← markAll g more
      .ok (⟨text, mark⟩ :: later)

/-! ## Events -/

/-- What takes effect. -/
inductive Event where
  /-- An option with its value, if it takes one. -/
  | flag (f : Flag) (value : Option String)
  /-- A positional argument with the arguments it got. -/
  | positional (p : Positional) (values : List String)
  deriving DecidableEq, Repr

/-- How a row of arguments reads. -/
structure Reading where
  /-- What takes effect, in order. -/
  events : List Event := []
  /-- What is left over. -/
  extras : List String := []
  /-- The fault that ends the row. -/
  fault : Option Fault := none
  deriving DecidableEq, Repr

namespace Reading

/-- A reading with events before it. -/
def after (r : Reading) (events : List Event) : Reading := { r with events := events ++ r.events }

/-- A reading with arguments left over before it. -/
def withExtras (r : Reading) (extras : List String) : Reading :=
  { r with extras := extras ++ r.extras }

end Reading

/-- Whether an argument is an option. -/
def Marked.isOption (m : Marked) : Bool :=
  match m.mark with
  | .option _ => true
  | _ => false

/-- Whether an argument is two dashes. -/
def Marked.isDashes (m : Marked) : Bool := m.mark = .dashes

/-- The arguments that a positional one takes, and what stands behind them;
nothing if there are none it could take. Two dashes on either side go with
it, and a command takes everything behind it. -/
def Positional.take? (p : Positional) (row : List Marked) : Option (List Marked × List Marked) :=
  let (front, rest) := row.span (·.isDashes)
  match rest.head?.filter (·.mark = .plain) with
  | some m =>
    if p = .command then some (row, [])
    else
      let (back, behind) := rest.tail.span (·.isDashes)
      some (front ++ m :: back, behind)
  | none => if p = .path then some (front, rest) else none

/-- What a positional argument makes of the arguments it takes: the first two
dashes are dropped, except before a command. -/
def Positional.values (p : Positional) (taken : List Marked) : List String :=
  match p with
  | .command => taken.map (·.text)
  | _ => (taken.map (·.text)).erase "--"

/-- Gives arguments to positional ones in turn: the events, the positional
arguments that are still open, and what stands behind. -/
def serve : List Positional → List Marked → List Event × List Positional × List Marked
  | [], row => ([], [], row)
  | p :: more, row => match p.take? row with
    | none => ([], p :: more, row)
    | some (taken, rest) =>
      let (events, still, rest) := serve more rest
      (.positional p (p.values taken) :: events, still, rest)

/-- Short options written together: those behind `flag`, and how many of the
arguments behind they use. -/
def together (g : Grammar) (behind : List Marked) (flag : Flag) :
    List Char → Except Fault (List Event × Nat)
  | [] =>
    if flag.takesValue then match behind with
      | m :: _ =>
        if m.mark = .plain then .ok ([.flag flag (some m.text)], 1)
        else .error (.missingValue flag)
      | [] => .error (.missingValue flag)
    else .ok ([.flag flag none], 0)
  | c :: more =>
    if flag.takesValue then .ok ([.flag flag (some (String.ofList (c :: more)))], 0)
    else match g.flag? (String.ofList ['-', c]) with
      | none => .error (.ignoredValue flag (String.ofList (c :: more)))
      | some next => do
        let (events, used) ← together g behind next more
        .ok (.flag flag none :: events, used)

/-- The events of an option, and how many of the arguments behind it uses. -/
def optionEvents (g : Grammar) (behind : List Marked) (w : Written) :
    Except Fault (List Event × Nat) :=
  match w.attached with
  | none => together g behind w.flag []
  | some value =>
    if w.flag.takesValue then .ok ([.flag w.flag (some value)], 0)
    else if w.isShort && value ≠ "" then together g behind w.flag value.toList
    else .error (.ignoredValue w.flag value)

/-- The reading of what stands behind the last option. -/
def finish (still : List Positional) (row : List Marked) : Reading :=
  let (events, still, rest) := serve still row
  let missing := still.filter (·.isRequired)
  { events, extras := rest.map (·.text),
    fault := if missing.isEmpty then none else some (.required missing) }

/-- The reading of a row of at most as many arguments as the first argument
says. Every step leaves a shorter row. -/
def readWithin (g : Grammar) : Nat → List Positional → List Marked → Reading
  | 0, still, row => finish still row
  | n + 1, still, row =>
    match row.span (!·.isOption) with
    | (_, []) => finish still row
    | (m :: more, option :: behind) =>
      let (events, left, rest) := serve still row
      if rest.length < row.length then (readWithin g n left rest).after events
      else ((readWithin g n left (option :: behind)).withExtras
        ((m :: more).map (·.text))).after events
    | ([], option :: behind) =>
      match option.mark with
      | .option (some w) => match optionEvents g behind w with
        | .ok (events, used) => (readWithin g n still (behind.drop used)).after events
        | .error f => { fault := some f }
      | _ => (readWithin g n still behind).withExtras [option.text]

/-- How a row of arguments reads. An abbreviation that is not clear is met
before everything else. -/
def read (g : Grammar) (arguments : List String) : Reading :=
  match markAll g arguments with
  | .ok row => readWithin g row.length g.positionals row
  | .error f => { fault := some f }

end ImportPolicy.Command
