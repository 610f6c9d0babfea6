import HtmlTemplate.Charset.Decoder
import HtmlTemplate.Writing.Charset.Chinese
import HtmlTemplate.Writing.Charset.Japanese
import HtmlTemplate.Writing.Charset.Korean
import HtmlTemplate.Writing.Charset.Taiwan

/-!
# East Asian encodings

In these encodings a byte of ASCII mostly stands for itself, and two or more bytes stand for each other character. The
first of them tells how many there are, the rest is in the tables of the sets.
-/

namespace HtmlTemplate

/-- The edition of JIS X 0213. The earlier one lacks a few characters. -/
inductive JisEdition where
  | year2000
  | year2004
  deriving DecidableEq, Repr

/-- The encodings with characters of several bytes, in which the state does not change. -/
inductive EastAsian where
  | big5
  | big5Windows
  | big5HongKong
  | eucJapanese
  | eucJisX0213 (edition : JisEdition)
  | shiftJis
  | shiftJisWindows
  | shiftJisX0213 (edition : JisEdition)
  | eucKorean
  | koreanWindows
  | johab
  | gb2312
  | gbk
  | gb18030
  deriving DecidableEq, Repr

namespace Charset

/-- The code that two bytes write. -/
def codeOf (a b : UInt8) : Nat := 0x100 * a.toNat + b.toNat

/-- The code below `0x80` of two bytes that are above it. -/
def lowCode? (a b : UInt8) : Option Nat :=
  if a < 0x80 || b < 0x80 then none else some (codeOf (a - 0x80) (b - 0x80))

/-- The narrow letter of the Japanese syllabary that a byte stands for. -/
def narrowKana? (b : UInt8) : Option CodePoint :=
  if 0xA1 ≤ b && b ≤ 0xDF then some (CodePoint.ofNat (0xFF61 + (b.toNat - 0xA1))) else none

/-- The characters that the edition of the year 2000 lacks. -/
def since2004 : List Nat :=
  [0x2E21, 0x2F7E, 0x4F54, 0x4F7E, 0x7427, 0x7E7A, 0x7E7B, 0x7E7C, 0x7E7D, 0x7E7E]

/-- The character of a code of the first plane of JIS X 0213. -/
def firstPlane? (code : Nat) : Option Text := charsIn? [jisX0208, jisX0213] code

/-- The character of a code of the second plane of JIS X 0213. One of them has another form in the earlier edition. -/
def secondPlane? (edition : JisEdition) (code : Nat) : Option Text :=
  if code = 0x7D3B && edition = .year2000 then some ['\u9b1d'] else charsIn? [jisX0213Second] code

/-- The rows of the second plane of JIS X 0213. -/
def secondPlaneRows : List Nat :=
  [0x21, 0x28, 0x23, 0x24, 0x25, 0x2C, 0x2D, 0x2E, 0x2F] ++ (List.range 17).map (0x6E + ·)

/-- The row and the column that two bytes mean after the shift, both counted from nought. -/
def shifted? (a b : UInt8) : Option (Nat × Nat) :=
  if b < 0x40 || b = 0x7F || 0xFC < b then none
  else
    let row := if a < 0xA0 then a.toNat - 0x81 else a.toNat - 0xC1
    let column := if b < 0x80 then b.toNat - 0x40 else b.toNat - 0x41
    if column < 94 then some (2 * row, column) else some (2 * row + 1, column - 94)

/-- The code of a row and a column. -/
def codeAt (row column : Nat) : Nat := 0x100 * (row + 0x21) + column + 0x21

/-- The code that two bytes mean after the shift, if it is one of the first 94 rows. -/
def shiftedCode? (a b : UInt8) : Option Nat :=
  match shifted? a b with
  | some (row, column) => if row < 94 then some (codeAt row column) else none
  | none => none

/-- The code of the second plane that two bytes mean after the shift. -/
def shiftedSecond? (a b : UInt8) : Option Nat := do
  let (row, column) ← shifted? a b
  guard (94 ≤ row)
  let row ← secondPlaneRows[row - 94]?
  return 0x100 * row + column + 0x21

/-- The parts that begin a Korean syllable as letters of their own. -/
def startLetters : String := "ㄱㄲㄴㄷㄸㄹㅁㅂㅃㅅㅆㅇㅈㅉㅊㅋㅌㅍㅎ"

/-- The parts that end a Korean syllable as letters of their own. -/
def endLetters : String := "ㄱㄲㄳㄴㄵㄶㄷㄹㄺㄻㄼㄽㄾㄿㅀㅁㅂㅄㅅㅆㅇㅈㅊㅋㅌㅍㅎ"

/-- The Korean syllable of its parts, by their numbers. -/
def syllable (start vowel finish : Nat) : CodePoint := CodePoint.ofNat (0xAC00 + (start * 21 + vowel) * 28 + finish)

/-- The places of the vowels among the codes of five bits. -/
def vowelCodes : List Nat := [3, 4, 5, 6, 7, 10, 11, 12, 13, 14, 15, 18, 19, 20, 21, 22, 23, 26, 27, 28, 29]

/-- A part of a Korean syllable of which the code is five bits: its number, or nothing if there is none. -/
def part? (filler : Nat) (codes : List Nat) (code : Nat) : Option (Option Nat) :=
  if code = filler then some none else (codes.idxOf? code).map some

/-- The syllable, or the letter, of which two bytes are the three parts in five bits each. -/
def composed? (a b : UInt8) : Option CodePoint := do
  let code := codeOf a b
  let start ← part? 1 ((List.range 19).map (· + 2)) (code / 0x400 % 0x20)
  let vowel ← part? 2 vowelCodes (code / 0x20 % 0x20)
  let finish ← part? 1 (((List.range 16).map (· + 2)) ++ (List.range 11).map (· + 19)) (code % 0x20)
  match start, vowel, finish with
  | none, none, none => some '\u3000'
  | none, none, some n => endLetters.text[n]?
  | none, some n, none => some (CodePoint.ofNat (0x314F + n))
  | some n, none, none => startLetters.text[n]?
  | some m, some n, none => some (syllable m n 0)
  | some m, some n, some k => some (syllable m n (k + 1))
  | _, _, _ => none

/-- The characters of the Korean standard that are no syllables, by the codes of their own for them. -/
def johabSign? (a b : UInt8) : Option Text :=
  if a = 0xDF || 0xF9 < a || b < 0x31 || (0x80 ≤ b && b < 0x91) || b = 0x7F || b = 0xFF ||
      (a = 0xDA && 0xA1 ≤ b && b ≤ 0xD3) then none
  else
    let row := if a < 0xE0 then 2 * (a.toNat - 0xD9) else 2 * a.toNat - 0x197
    let column := if b < 0x91 then b.toNat - 0x31 else b.toNat - 0x43
    if a < 0xD9 then none
    else if column < 94 then charsIn? [ksX1001] (codeAt row column)
    else charsIn? [ksX1001] (codeAt (row + 1) (column - 94))

/-- The syllable that the letters of its parts write, each of which is a code of its own. -/
def spelled? (start vowel finish : UInt8) : Option CodePoint := do
  let at? (letters : String) (b : UInt8) : Option Nat := do
    let letter ← charsIn? [ksX1001] (codeOf 0x24 (b - 0x80))
    letters.text.idxOf? (← letter.head?)
  let start ← at? startLetters start
  if vowel < 0xBF || 0xD3 < vowel then none
  else if finish = 0xD4 then some (syllable start (vowel.toNat - 0xBF) 0)
  else some (syllable start (vowel.toNat - 0xBF) ((← at? endLetters finish) + 1))

/-- The character of four bytes of GB 18030. -/
def fourBytes? (a b c d : UInt8) : Option CodePoint :=
  if a < 0x81 || a = 0xFF || c < 0x81 || c = 0xFF || d < 0x30 || 0x39 < d then none
  else
    let lead := a.toNat - 0x81
    let place (lead : Nat) : Nat :=
      ((lead * 10 + (b.toNat - 0x30)) * 126 + (c.toNat - 0x81)) * 10 + (d.toNat - 0x30)
    if lead < 4 then
      if place lead < 39420 then
        ((fourByteRuns.filter fun run => run.1 ≤ place lead).getLast?).map fun (first, char) =>
          CodePoint.ofNat (char + (place lead - first))
      else none
    else if 15 ≤ lead && place (lead - 15) < 0x100000 then some (CodePoint.ofNat (0x10000 + place (lead - 15)))
    else none

end Charset

namespace EastAsian

open Charset

/-- The name of the encoding in messages. -/
def name : EastAsian → Text
  | .big5 => "big5".text
  | .big5Windows => "cp950".text
  | .big5HongKong => "big5hkscs".text
  | .eucJapanese => "euc_jp".text
  | .eucJisX0213 .year2000 => "euc_jisx0213".text
  | .eucJisX0213 .year2004 => "euc_jis_2004".text
  | .shiftJis => "shift_jis".text
  | .shiftJisWindows => "cp932".text
  | .shiftJisX0213 .year2000 => "shift_jisx0213".text
  | .shiftJisX0213 .year2004 => "shift_jis_2004".text
  | .eucKorean => "euc_kr".text
  | .koreanWindows => "cp949".text
  | .johab => "johab".text
  | .gb2312 => "gb2312".text
  | .gbk => "gbk".text
  | .gb18030 => "gb18030".text

/-- The character of a single byte. -/
def single? (encoding : EastAsian) (b : UInt8) : Option CodePoint :=
  match encoding with
  | .shiftJis => if b < 0x80 then some (CodePoint.ofNat b.toNat) else narrowKana? b
  | .shiftJisWindows =>
    if b ≤ 0x80 then some (CodePoint.ofNat b.toNat)
    else if b = 0xA0 then some '\uf8f0'
    else if 0xFD ≤ b then some (CodePoint.ofNat (0xF8F1 + (b.toNat - 0xFD)))
    else narrowKana? b
  | .shiftJisX0213 _ =>
    if b = 0x5C then some '¥' else if b = 0x7E then some '‾'
    else if b < 0x80 then some (CodePoint.ofNat b.toNat)
    else narrowKana? b
  | _ => if b < 0x80 then some (CodePoint.ofNat b.toNat) else none

/-- Whether a byte that is no character may begin one. -/
def mayLead (encoding : EastAsian) (b : UInt8) : Bool :=
  match encoding with
  | .shiftJis => (0x81 ≤ b && b ≤ 0x9F) || (0xE0 ≤ b && b ≤ 0xEA)
  | .shiftJisX0213 _ => b ≠ 0x80 && b ≠ 0xA0 && b ≤ 0xFC
  | _ => true

/-- The characters of two bytes. -/
def pair? (encoding : EastAsian) (a b : UInt8) : Option Text :=
  match encoding with
  | .big5 => charsIn? [Charset.big5] (codeOf a b)
  | .big5Windows => charsIn? [windowsTaiwan, Charset.big5] (codeOf a b)
  | .big5HongKong => charsIn? [hongKong, Charset.big5] (codeOf a b)
  | .eucJapanese =>
    if a = 0x8E then (narrowKana? b).map ([·]) else (lowCode? a b).bind (charsIn? [jisX0208])
  | .eucJisX0213 _ =>
    if a = 0x8E then (narrowKana? b).map ([·]) else (lowCode? a b).bind firstPlane?
  | .shiftJis => (shiftedCode? a b).bind (charsIn? [jisX0208])
  | .shiftJisWindows =>
    (charsIn? [windowsJapanese] (codeOf a b)).or ((shiftedCode? a b).bind (charsIn? [jisX0208]))
  | .shiftJisX0213 edition =>
    if a = 0x81 && b = 0x5F then some ['\\']
    else if a = 0x81 && b = 0xB0 then some ['~']
    else
      ((shiftedCode? a b).bind firstPlane?).or ((shiftedSecond? a b).bind (secondPlane? edition))
  | .eucKorean => (lowCode? a b).bind (charsIn? [ksX1001])
  | .koreanWindows =>
    (charsIn? [windowsKorean] (codeOf a b)).or ((lowCode? a b).bind (charsIn? [ksX1001]))
  | .johab => if a < 0xD8 then (composed? a b).map ([·]) else johabSign? a b
  | .gb2312 => (lowCode? a b).bind (charsIn? [Charset.gb2312])
  | .gbk => (charsIn? [Charset.gbk] (codeOf a b)).or ((lowCode? a b).bind (charsIn? [Charset.gb2312]))
  | .gb18030 =>
    (charsIn? [Charset.gb18030, Charset.gbk] (codeOf a b)).or ((lowCode? a b).bind (charsIn? [Charset.gb2312]))

/-- Whether two bytes stand for a character that the edition of the encoding does not have yet. -/
def isLater (encoding : EastAsian) (a b : UInt8) : Bool :=
  match encoding with
  | .eucJisX0213 .year2000 => (lowCode? a b).any since2004.contains
  | .shiftJisX0213 .year2000 => (shiftedCode? a b).any since2004.contains
  | _ => false

/-- The characters of some bytes, if they stand for any, and else a fault of the first byte. -/
def orSnag (chars : Option Text) (length : Nat) : Except Snag (Text × Nat) :=
  match chars with
  | some chars => .ok (chars, length)
  | none => .error ⟨1, .badSequence⟩

/-- A character of more than two bytes. Nothing is the answer if the first bytes do not begin one. -/
def long? (encoding : EastAsian) (bytes : Bytes) : Option (Except Snag (Text × Nat)) :=
  let incomplete : Except Snag (Text × Nat) := .error ⟨bytes.length, .incompleteSequence⟩
  match encoding, bytes with
  | .eucJapanese, 0x8F :: rest =>
    match rest with
    | b :: c :: _ => some (orSnag ((lowCode? b c).bind (charsIn? [jisX0212])) 3)
    | _ => some incomplete
  | .eucJisX0213 edition, 0x8F :: rest =>
    match rest with
    | b :: c :: _ =>
      let find (code : Nat) : Option Text := (secondPlane? edition code).or (charsIn? [jisX0212] code)
      some (orSnag ((lowCode? b c).bind find) 3)
    | _ => some incomplete
  | .eucKorean, 0xA4 :: 0xD4 :: rest =>
    match rest with
    | 0xA4 :: start :: 0xA4 :: vowel :: 0xA4 :: finish :: _ =>
      some (orSnag ((spelled? start vowel finish).map ([·])) 8)
    | rest => if rest.length < 6 then some incomplete else some (orSnag none 1)
  | .gb18030, a :: b :: rest =>
    if b < 0x30 || 0x39 < b then none
    else
      match rest with
      | c :: d :: _ => some (orSnag ((fourBytes? a b c d).map ([·])) 4)
      | _ => some incomplete
  | _, _ => none

/-- Reads a character. -/
def step (encoding : EastAsian) (bytes : Bytes) : Except Snag (Text × Nat) :=
  match bytes with
  | [] => .ok ([], 0)
  | a :: rest =>
    match encoding.single? a with
    | some c => .ok ([c], 1)
    | none =>
      if !encoding.mayLead a then .error ⟨1, .badSequence⟩
      else
        match encoding.long? bytes, rest with
        | some answer, _ => answer
        | none, [] => .error ⟨1, .incompleteSequence⟩
        | none, b :: _ =>
          if encoding.isLater a b then .error ⟨2, .badSequence⟩ else orSnag (encoding.pair? a b) 2

end EastAsian

end HtmlTemplate
