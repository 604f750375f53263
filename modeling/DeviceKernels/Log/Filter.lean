import DeviceKernels.Text.Numeral

/-
Filters of log records. A filter is a list of directives with commas between them. A directive is
a level, or a target with a span, fields of the span and a level, all but one of which may be
missing.
-/

namespace DeviceKernels

inductive FilterFault where
  | level
  | directive
  deriving DecidableEq, Repr

def FilterFault.message : FilterFault → String
  | level =>
      "error parsing level filter: expected one of " ++
        Text.join ", " (["off", "error", "warn", "info", "debug", "trace"].map fun name =>
          "\"" ++ name ++ "\"") ++ ", or a number 0-5"
  | directive => "invalid filter directive"

namespace LogFilter

/-- Whether a text is the name or the number of a level. -/
def isLevel (text : String) : Bool :=
  (Text.readNatural? 5 text).isSome ||
    ["off", "error", "warn", "info", "debug", "trace", ""].contains (Text.lowerAscii text)

/-- What a reader of a directive is in. -/
inductive Part where
  | start
  | target
  | span
  | fields
  | afterFields
  | afterSpan
  /-- The level so far, the last character first. -/
  | level (read : List Char)
  deriving DecidableEq, Repr

def startsTarget (character : Char) : Bool :=
  character.isAlphanum || 128 ≤ character.toNat || ['-', ':', '_'].contains character

/-- Reads one character, if it may stand where it does. -/
def Part.read? (character : Char) : Part → Option Part
  | start =>
      if character == '[' then some span
      else if startsTarget character then some target else none
  | target =>
      some (if character == '=' then level [] else if character == '[' then span else target)
  | span =>
      some (if character == ']' then afterSpan else if character == '\x7b' then fields else span)
  | fields => some (if character == '\x7d' then afterFields else fields)
  | afterFields => if character == ']' then some afterSpan else none
  | afterSpan => if character == '=' then some (level []) else none
  | level read => some (level (character :: read))

/-- Whether a directive may end in a part. -/
def Part.finish : Part → Except FilterFault Unit
  | target => .ok ()
  | afterSpan => .ok ()
  | level read => if isLevel (String.ofList read.reverse) then .ok () else .error .level
  | _ => .error .directive

def checkDirective (directive : List Char) : Except FilterFault Unit :=
  match directive.foldlM (fun part character => Part.read? character part) Part.start with
  | some part => part.finish
  | none => .error .directive

/-- Checks every directive. An empty one says nothing. -/
def check (filter : String) : Except FilterFault Unit :=
  ((Text.splitAt ',' filter.toList).filter fun directive => !directive.isEmpty).forM
    fun directive => checkDirective (Text.trim (String.ofList directive)).toList

end LogFilter

end DeviceKernels
