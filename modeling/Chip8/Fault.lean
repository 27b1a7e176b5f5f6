import Chip8.Text.Quoted

/-!
# Faults

Everything that can go wrong, by cause.  The wording of a fault is decided in one
place, `Fault.message`, and the family that a host distinguishes when it handles
faults in `Fault.family`.

A word that is no instruction is not a fault: it executes as an instruction
without effect.
-/

namespace Chip8

set_option autoImplicit false

open Text

/-- Why a path could not be opened as a file. -/
inductive PathFault where
  | notFound
  | isDirectory
  | notDirectory
  | nameTooLong
  /-- Any other reason, with the number and the wording of the operating system. -/
  | other (number : Nat) (wording : String)
  deriving DecidableEq, Repr

/-- The number and wording of the operating system. -/
def PathFault.reason : PathFault → String
  | .notFound => "[Errno 2] No such file or directory"
  | .isDirectory => "[Errno 21] Is a directory"
  | .notDirectory => "[Errno 20] Not a directory"
  | .nameTooLong => "[Errno 36] File name too long"
  | .other number wording => "[Errno " ++ toString number ++ "] " ++ wording

/-- The full message about a path. -/
def PathFault.message (fault : PathFault) (path : String) : String :=
  fault.reason ++ ": " ++ quoted path

/-- The causes of failure. -/
inductive Fault where
  /-- An access outside a memory of the given size. -/
  | addressOutOfRange (address : Int) (size : Nat)
  /-- A number stored in a memory cell that is no byte. -/
  | datumNotByte (datum : Int)
  /-- A block of numbers placed in memory that are not all bytes. -/
  | blockNotBytes
  | memorySizeNotPositive
  | stackCapacityNotPositive
  | stackOverflow (capacity : Nat) (address : Int)
  | stackUnderflow
  | pixelOutOfBounds (row column width height : Int)
  | keyOutOfRange (key : Int)
  | timerRateNotPositive
  /-- A clock says that infinitely many ticks are due. -/
  | endlessTicks
  /-- A clock from which no number of ticks follows. -/
  | undefinedTicks
  /-- An instruction names a register that does not exist, to write it or to read it. -/
  | noSuchRegister (writing : Bool)
  /-- A sprite drawn on a screen that has no columns or no rows. -/
  | screenWithoutPixels
  | historyLimitNegative
  | unknownBreakpointKind (name : String)
  | romTooLong (length limit : Nat)
  | romFileEmpty (path : String)
  | romFileTooLong (path : String) (length limit : Nat)
  | romFileUnreadable (path : String) (cause : PathFault)
  | fileUnreadable (path : String) (cause : PathFault)
  | pathHoldsNull
  /-- A configuration file whose bytes are not text. -/
  | fileNotText
  /-- A configuration text that is not a document. -/
  | malformedDocument
  /-- An escape with a number beyond all code points. -/
  | escapeBeyondCodes
  /-- An escape with a number beyond 31 bits. -/
  | escapeBeyondWords
  /-- A number without any characters. -/
  | numberEmpty
  /-- A text that is not the number it was said to be. -/
  | notFloat (written : String)
  /-- A whole number is too large to be taken as a double. -/
  | beyondDoubles
  /-- A text that is no word for a truth value. -/
  | notTruthValue (written : String)
  /-- A text that is not the point in time it was said to be. -/
  | notTimestamp
  /-- A mapping where the text of a point in time was expected. -/
  | timestampNotText
  /-- A date or time of day that does not exist. -/
  | impossibleTime (message : String)
  /-- A mapping stands for the text that it holds itself. -/
  | textInsideItself
  /-- Too many collections inside one another. -/
  | nestedTooDeep
  | rootNotMapping
  | sectionNotMapping (name : String)
  /-- A text that is no integer in a base, as it is written in messages. -/
  | integerLiteral (base : Nat) (written : String)
  | integerTooLong (limit digits : Nat)
  | integerTooLongToWrite (limit : Nat)
  | notInteger (written : String)
  | notPositive (name written : String)
  | keyNotSingle (key : String)
  | keyIndexInvalid (key written : String)
  /-- A list was expected and the value has no elements. -/
  | noElements
  /-- The upper case of a host key is several characters. -/
  | noSingleUpperCase
  deriving DecidableEq, Repr

namespace Fault

/-- At most this many characters of a quoted text are shown in a message about it. -/
def shownCharacters : Nat := 200

/-- The wording of a fault. -/
def message : Fault → String
  | addressOutOfRange a size =>
      "Address " ++ address a ++ " out of range for memory of size " ++ address size ++ "."
  | datumNotByte datum => "Data " ++ toString datum ++ " is not an 8-bit value."
  | blockNotBytes => "bytes must be in range(0, 256)"
  | memorySizeNotPositive => "Memory size must be a positive integer."
  | stackCapacityNotPositive => "Stack capacity must be a positive integer."
  | stackOverflow capacity a =>
      "Call stack overflow: capacity " ++ toString capacity ++ " exceeded pushing " ++
        address a ++ "."
  | stackUnderflow => "Call stack underflow: return with an empty stack."
  | pixelOutOfBounds row column width height =>
      "Pixel (" ++ toString row ++ ", " ++ toString column ++ ") out of bounds for " ++
        toString width ++ "x" ++ toString height ++ " display."
  | keyOutOfRange key => "Key " ++ toString key ++ " out of range 0x0-0xF."
  | timerRateNotPositive => "Timer rate must be positive."
  | endlessTicks => "cannot convert float infinity to integer"
  | undefinedTicks => "cannot convert float NaN to integer"
  | noSuchRegister writing =>
      if writing then "list assignment index out of range" else "list index out of range"
  | screenWithoutPixels => "integer modulo by zero"
  | historyLimitNegative => "maxlen must be non-negative"
  | unknownBreakpointKind name => quoted name ++ " is not a valid BreakpointConditionType"
  | romTooLong length limit =>
      "ROM of " ++ toString length ++ " bytes exceeds the " ++ toString limit ++
        " bytes of program space."
  | romFileEmpty path => "ROM file " ++ path ++ " is empty"
  | romFileTooLong path length limit =>
      "ROM file " ++ path ++ " is " ++ toString length ++ " bytes; at most " ++ toString limit ++
        " bytes fit in program space"
  | romFileUnreadable path cause => "Cannot read ROM file " ++ path ++ ": " ++ cause.message path
  | fileUnreadable path cause => cause.message path
  | pathHoldsNull => "embedded null byte"
  | fileNotText => "The file is not UTF-8 text."
  | malformedDocument => "The text is not a YAML document."
  | escapeBeyondCodes => "chr() arg not in range(0x110000)"
  | escapeBeyondWords => "Python int too large to convert to C int"
  | numberEmpty => "string index out of range"
  | notFloat written => "could not convert string to float: " ++ written
  | beyondDoubles => "int too large to convert to float"
  | notTruthValue written => written
  | notTimestamp => "'NoneType' object has no attribute 'groupdict'"
  | timestampNotText => "The value is no text."
  | impossibleTime text => text
  | textInsideItself | nestedTooDeep => "maximum recursion depth exceeded"
  | rootNotMapping => "Config root must be a mapping."
  | sectionNotMapping name => "Config section '" ++ name ++ "' must be a mapping."
  | integerLiteral base written =>
      "invalid literal for int() with base " ++ toString base ++ ": " ++
        String.ofList (written.toList.take shownCharacters)
  | integerTooLong limit digits =>
      "Exceeds the limit (" ++ toString limit ++
        " digits) for integer string conversion: value has " ++ toString digits ++
        " digits; use sys.set_int_max_str_digits() to increase the limit"
  | integerTooLongToWrite limit =>
      "Exceeds the limit (" ++ toString limit ++ " digits) for integer string conversion; " ++
        "use sys.set_int_max_str_digits() to increase the limit"
  | notInteger written => "Invalid integer format: " ++ written
  | notPositive name written => name ++ " must be positive, got " ++ written
  | keyNotSingle key => "Keymap entry '" ++ key ++ "' must be a single character"
  | keyIndexInvalid key written => "Keymap entry '" ++ key ++ "' maps to invalid key " ++ written
  | noElements => "The value has no elements."
  | noSingleUpperCase => "The upper case is not a single character."

/-- The families of faults that a host tells apart. -/
inductive Family where
  | address
  | stackOverflow
  | stackUnderflow
  | rom
  | value
  | index
  | key
  | attribute
  | overflow
  | recursion
  | division
  | notFound
  | isDirectory
  | notDirectory
  | system
  | encoding
  | document
  | type
  deriving DecidableEq, Repr

/-- The family of a fault of the file system. -/
def ofPath : PathFault → Family
  | .notFound => .notFound
  | .isDirectory => .isDirectory
  | .notDirectory => .notDirectory
  | .nameTooLong | .other .. => .system

/-- The family that a fault belongs to. -/
def family : Fault → Family
  | addressOutOfRange .. => .address
  | stackOverflow .. => .stackOverflow
  | stackUnderflow => .stackUnderflow
  | pixelOutOfBounds .. | keyOutOfRange .. | noSuchRegister .. | numberEmpty => .index
  | notTruthValue .. => .key
  | notTimestamp => .attribute
  | endlessTicks | escapeBeyondWords | beyondDoubles => .overflow
  | textInsideItself | nestedTooDeep => .recursion
  | screenWithoutPixels => .division
  | romTooLong .. | romFileEmpty .. | romFileTooLong .. | romFileUnreadable .. => .rom
  | fileUnreadable _ cause => ofPath cause
  | fileNotText => .encoding
  | malformedDocument => .document
  | noElements | noSingleUpperCase | timestampNotText => .type
  | datumNotByte .. | blockNotBytes | memorySizeNotPositive | stackCapacityNotPositive
  | timerRateNotPositive | undefinedTicks | historyLimitNegative | unknownBreakpointKind ..
  | pathHoldsNull | escapeBeyondCodes | notFloat .. | impossibleTime .. | rootNotMapping
  | sectionNotMapping .. | integerLiteral .. | integerTooLong .. | integerTooLongToWrite ..
  | notInteger .. | notPositive .. | keyNotSingle .. | keyIndexInvalid .. => .value

end Fault

end Chip8
