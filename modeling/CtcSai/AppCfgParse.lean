/-
# `AppCfgParse` — ctc_sai_app_cfg_parse.c

The parser of the chip profile reads its file through a buffer of 64 bytes,
skips comments and blank lines, trims what is left and hands it to one of
three functions: for a global field, for the table of a field, or for the
letter-number mix.  A full buffer has no terminator; to trim one is to read
past it, and has no result here.
-/
import CtcSai.Lib.LineReader
import CtcSai.Saitypes

namespace CtcSai

open LineReader

/-! ## Bytes and strings -/

abbrev Byte := BitVec 8

/-- The bytes of a C string, without the terminator. -/
abbrev CStr := List Byte

namespace Byte

def newline : Byte := 0x0a
def carriageReturn : Byte := 0x0d
def tab : Byte := 0x09
def space : Byte := 0x20
def hash : Byte := 0x23
def plus : Byte := 0x2b
def minus : Byte := 0x2d
def digit0 : Byte := 0x30
def digit9 : Byte := 0x39
def equals : Byte := 0x3d
def leftBracket : Byte := 0x5b
def rightBracket : Byte := 0x5d
def leftBrace : Byte := 0x7b
def rightBrace : Byte := 0x7d

/-- `sal_isspace`. -/
def isSpace (c : Byte) : Bool := c = space || (decide (0x09 ≤ c) && decide (c ≤ 0x0d))

/-- The digit of a character in a base up to 16. -/
def digit? (base : Nat) (c : Byte) : Option Nat :=
  let d :=
    if 0x30 ≤ c ∧ c ≤ 0x39 then c.toNat - 0x30
    else if 0x41 ≤ c ∧ c ≤ 0x46 then c.toNat - 0x37
    else if 0x61 ≤ c ∧ c ≤ 0x66 then c.toNat - 0x57
    else 16
  if d < base then some d else none

end Byte

/-- EMPTY_LINE. -/
def emptyLine (c : Byte) : Bool := c = 0 || c = Byte.carriageReturn || c = Byte.newline

/-- WHITE_SPACE. -/
def whiteSpace (c : Byte) : Bool := c = Byte.tab || c = Byte.space

/-- `strstr`: the string from the first occurrence on. -/
def strstr (pat : CStr) : CStr → Option CStr
  | [] => if pat.isEmpty then some [] else none
  | c :: s => if pat.isPrefixOf (c :: s) then some (c :: s) else strstr pat s

/-- `sal_strncmp(s, prefix, strlen(prefix)) == 0`. -/
def startsWith (s pre : CStr) : Bool := pre.isPrefixOf s

/-- The number a string of digits begins with. -/
def scanDigits (base : Nat) (acc : Nat) : CStr → Nat
  | [] => acc
  | c :: s =>
    match c.digit? base with
    | none => acc
    | some d => scanDigits base (acc * base + d) s

/-- `sscanf` with `%d` into a zeroed `uint32`. -/
def scanDec (s : CStr) : BitVec 32 :=
  match s.dropWhile Byte.isSpace with
  | [] => 0
  | c :: s =>
    if c = Byte.minus then -BitVec.ofNat 32 (scanDigits 10 0 s)
    else if c = Byte.plus then BitVec.ofNat 32 (scanDigits 10 0 s)
    else BitVec.ofNat 32 (scanDigits 10 0 (c :: s))

/-- `%d` in `sal_sprintf`. -/
def printDec (v : BitVec 32) : CStr :=
  let digits (k : Nat) := (Nat.toDigits 10 k).map fun c => BitVec.ofNat 8 c.toNat
  if v.toInt < 0 then Byte.minus :: digits v.toInt.natAbs else digits v.toNat

/-- `_ctc_app_string_atrim`. -/
def stringAtrim (s : CStr) : CStr :=
  ((s.dropWhile whiteSpace).reverse.dropWhile fun c =>
    whiteSpace c || c = Byte.carriageReturn || c = Byte.newline).reverse

/-- `_ctc_app_get_interage`: the number after the first `=`; without one the
value stays as it is. -/
def getInterage (s : CStr) : Option (BitVec 32) :=
  match strstr [Byte.equals] s with
  | some (_ :: rest) =>
    match rest.dropWhile Byte.isSpace with
    | 0x30 :: 0x78 :: hex => some (BitVec.ofNat 32 (scanDigits 16 0 hex))
    | text => some (scanDec text)
  | _ => none

/-- `_ctc_app_get_field_interage`: the number right after the field. -/
def getFieldInterage (s field : CStr) : Option (BitVec 32) :=
  (strstr field s).map fun rest =>
    let digits := (rest.drop field.length).takeWhile fun c =>
      decide (Byte.digit0 ≤ c) && decide (c ≤ Byte.digit9)
    scanDec digits

/-! ## The three parse functions -/

/-- `parse_flag`: of its bits one is set at a time. -/
inductive ParseFlag where
  | global | table | tableEnter | tableLeave | mix
deriving DecidableEq, Repr

/-- CTC_APP_PARSE_RET_*. -/
inductive ParseRet where
  | continue | find | notFind
deriving DecidableEq, Repr

/-- `ctc_app_parse_t` without its function; `value` points to elements of 32
bits in the first two modes and of 8 bits in the third. -/
structure AppParse where
  field : CStr
  fieldSub : CStr
  curEntryNum : BitVec 8
  maxEntryNum : BitVec 8
  parseFlag : ParseFlag
  value : Nat → BitVec 32
  valueByte : Nat → BitVec 8

/-- `#{` opens a table. -/
def tableOpen : CStr := [Byte.hash, Byte.leftBrace]

/-- `#}` closes it. -/
def tableClose : CStr := [Byte.hash, Byte.rightBrace]

/-- `_ctc_app_get_interage` into an element of `value`, which is counted. -/
def AppParse.record (p : AppParse) (line : CStr) (i : Nat) : AppParse :=
  { p with
    value := match getInterage line with
      | none => p.value
      | some v => Function.update p.value i v
    curEntryNum := p.curEntryNum + 1 }

/-- `_ctc_app_do_cfg_file`. -/
def doCfgFile (line : CStr) (p : AppParse) : ParseRet × AppParse :=
  if p.parseFlag = .global ∧ startsWith line p.field then (.find, p.record line 0)
  else (.continue, p)

/-- `_ctc_app_do_table_cfg_file`. -/
def doTableCfgFile (line : CStr) (p : AppParse) : ParseRet × AppParse :=
  match p.parseFlag with
  | .tableLeave =>
    (.continue, if startsWith line tableClose then { p with parseFlag := .global } else p)
  | .tableEnter =>
    (.continue, { p with
      parseFlag := if startsWith line p.field then .table else .tableLeave })
  | .global =>
    (.continue, if startsWith line tableOpen then { p with parseFlag := .tableEnter } else p)
  | .table =>
    if startsWith line tableClose then (.find, { p with parseFlag := .global })
    else if startsWith line p.fieldSub then
      if p.curEntryNum ≥ p.maxEntryNum then (.notFind, p)
      else (.continue, p.record line p.curEntryNum.toNat)
    else (.continue, p)
  | .mix => (.continue, p)

/-- `_ctc_app_do_mix_cfg_file`. -/
def doMixCfgFile (line : CStr) (p : AppParse) : ParseRet × AppParse :=
  if p.parseFlag = .mix ∧ p.curEntryNum < p.maxEntryNum then
    let val := (getFieldInterage line p.field).getD 0
    if startsWith line (Byte.leftBracket :: p.field ++ printDec val ++ [Byte.rightBracket]) then
      -- a line without a value stores the number of its field
      (.continue, { p with
        valueByte := Function.update p.valueByte val.toNat
          (((getInterage line).getD val).setWidth 8)
        curEntryNum := p.curEntryNum + 1 })
    else (.continue, p)
  else (.continue, p)

/-! ## The loop -/

/-- The size of the buffers `string` and `line`. -/
def bufferSize : Nat := 64

/-- What becomes of a chunk: it is skipped, it is a line, or it fills the
buffer and has no terminator to be trimmed by. -/
inductive ChunkRead where
  | skip
  | line (text : CStr)
  | unterminated
deriving DecidableEq, Repr

/-- The test for a comment, on the zeroed buffer. -/
def commentLine (string : List Byte) : Bool :=
  string.getD 0 0 = Byte.hash && string.getD 1 0 ≠ Byte.leftBrace &&
    string.getD 1 0 ≠ Byte.rightBrace

/-- The string in a buffer; without a terminator there is none. -/
def terminated (string : List Byte) : Option CStr :=
  if string.length < bufferSize ∨ 0 ∈ string then some (string.takeWhile (· ≠ 0)) else none

/-- The body of the loop up to the call of the parse function. -/
def readChunk (string : List Byte) : ChunkRead :=
  if commentLine string then .skip
  else if emptyLine (string.getD 0 0) then .skip
  else
    match terminated string with
    | none => .unterminated
    | some s =>
      let line := stringAtrim s
      if emptyLine (line.getD 0 0) then .skip else .line line

/-- The loop of `_ctc_app_do_parse` over the chunks of the file, with what the
last call of the parse function returned; `none` is a read past the buffer. -/
def doParseLoop (func : CStr → AppParse → ParseRet × AppParse) :
    List (List Byte) → ParseRet → AppParse → Option (ParseRet × AppParse)
  | [], ret, p => some (ret, p)
  | string :: rest, ret, p =>
    match readChunk string with
    | .skip => doParseLoop func rest ret p
    | .unterminated => none
    | .line text =>
      match func text p with
      | (.continue, p) => doParseLoop func rest .continue p
      | (ret, p) => some (ret, p)

/-- `err_map`. -/
def errMap : ParseRet → CtcE
  | .continue => .notExist
  | .find => .none
  | .notFind => .notExist

/-- What a call returns: the code, `*p_entry_num`, and the values. -/
structure ParseResult where
  code : CtcE
  entryNum : BitVec 8
  value : Nat → BitVec 32
  valueByte : Nat → BitVec 8

/-- `_ctc_app_do_parse`. -/
def doParse (func : CStr → AppParse → ParseRet × AppParse) (p : AppParse) (file : List Byte) :
    Option ParseResult :=
  (doParseLoop func (chunks Byte.newline bufferSize file) .notFind p).map fun (ret, p) =>
    ⟨errMap (if p.curEntryNum = 0 then ret else .find), p.curEntryNum, p.value, p.valueByte⟩

/-- The arguments of a call: `none` is a NULL sub-field, and `maxEntryNum` and
the values are what the caller's memory holds. -/
structure ParseRequest where
  field : CStr
  fieldSub : Option CStr
  maxEntryNum : BitVec 8
  value : Nat → BitVec 32
  valueByte : Nat → BitVec 8

/-- LETTER_NUMBER_MIX: `lettermixnum`. -/
def letterNumberMix : CStr :=
  [0x6c, 0x65, 0x74, 0x74, 0x65, 0x72, 0x6d, 0x69, 0x78, 0x6e, 0x75, 0x6d]

def bracketed (name : CStr) : CStr := Byte.leftBracket :: name ++ [Byte.rightBracket]

/-- `ctc_app_parse_file`; every prefix of LETTER_NUMBER_MIX asks for the mix. -/
def parseFile (r : ParseRequest) (file : List Byte) : Option ParseResult :=
  let p : AppParse :=
    ⟨bracketed r.field, [], 0, r.maxEntryNum, .global, r.value, r.valueByte⟩
  match r.fieldSub with
  | none => doParse doCfgFile p file
  | some sub =>
    if startsWith letterNumberMix sub then
      doParse doMixCfgFile { p with field := r.field, parseFlag := .mix } file
    else doParse doTableCfgFile { p with fieldSub := bracketed sub } file

end CtcSai
