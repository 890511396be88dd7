import CrateDocs.Charset.Big5
import CrateDocs.Charset.Gbk
import CrateDocs.Charset.Hkscs
import CrateDocs.Charset.Reader

/-!
Chinese characters in bytes. The simplified sets form a tower: GB 2312 lies in a corner of GBK, and
GB 18030 fills GBK up and reaches all other code points by four bytes. The traditional sets share
the table of Big5.

GB 18030: what it has beyond GBK.
-/

namespace CrateDocs.Charset

/-- Runs of cells that GBK leaves out: the first and the last code of each run, and the code point
of its first cell. -/
def gb18030Runs : List (Nat × Nat × Nat) := [
  (0xA140, 0xA1A0, 0xE4C6), (0xA240, 0xA2A0, 0xE526), (0xA2AB, 0xA2B0, 0xE766),
  (0xA2E3, 0xA2E3, 0x20AC), (0xA2E4, 0xA2E4, 0xE76D), (0xA2EF, 0xA2F0, 0xE76E),
  (0xA2FD, 0xA2FE, 0xE770), (0xA340, 0xA3A0, 0xE586), (0xA440, 0xA4A0, 0xE5E6),
  (0xA4F4, 0xA4FE, 0xE772), (0xA540, 0xA5A0, 0xE646), (0xA5F7, 0xA5FE, 0xE77D),
  (0xA640, 0xA6A0, 0xE6A6), (0xA6B9, 0xA6C0, 0xE785), (0xA6D9, 0xA6DF, 0xE78D),
  (0xA6EC, 0xA6ED, 0xE794), (0xA6F3, 0xA6F3, 0xE796), (0xA6F6, 0xA6FE, 0xE797),
  (0xA740, 0xA7A0, 0xE706), (0xA7C2, 0xA7D0, 0xE7A0), (0xA7F2, 0xA7FE, 0xE7AF),
  (0xA896, 0xA8A0, 0xE7BC), (0xA8BC, 0xA8BC, 0xE7C7), (0xA8BF, 0xA8BF, 0x1F9),
  (0xA8C1, 0xA8C4, 0xE7C9), (0xA8EA, 0xA8FE, 0xE7CD), (0xA958, 0xA958, 0xE7E2),
  (0xA95B, 0xA95B, 0xE7E3), (0xA95D, 0xA95F, 0xE7E4), (0xA989, 0xA989, 0x303E),
  (0xA98A, 0xA995, 0x2FF0), (0xA997, 0xA9A3, 0xE7F4), (0xA9F0, 0xA9FE, 0xE801),
  (0xAAA1, 0xAAFE, 0xE000), (0xABA1, 0xABFE, 0xE05E), (0xACA1, 0xACFE, 0xE0BC),
  (0xADA1, 0xADFE, 0xE11A), (0xAEA1, 0xAEFE, 0xE178), (0xAFA1, 0xAFFE, 0xE1D6),
  (0xD7FA, 0xD7FE, 0xE810), (0xF8A1, 0xF8FE, 0xE234), (0xF9A1, 0xF9FE, 0xE292),
  (0xFAA1, 0xFAFE, 0xE2F0), (0xFBA1, 0xFBFE, 0xE34E), (0xFCA1, 0xFCFE, 0xE3AC),
  (0xFDA1, 0xFDFE, 0xE40A), (0xFE50, 0xFE50, 0x2E81), (0xFE51, 0xFE53, 0xE816),
  (0xFE54, 0xFE54, 0x2E84), (0xFE55, 0xFE55, 0x3473), (0xFE56, 0xFE56, 0x3447),
  (0xFE57, 0xFE57, 0x2E88), (0xFE58, 0xFE58, 0x2E8B), (0xFE59, 0xFE59, 0xE81E),
  (0xFE5A, 0xFE5A, 0x359E), (0xFE5B, 0xFE5B, 0x361A), (0xFE5C, 0xFE5C, 0x360E),
  (0xFE5D, 0xFE5D, 0x2E8C), (0xFE5E, 0xFE5E, 0x2E97), (0xFE5F, 0xFE5F, 0x396E),
  (0xFE60, 0xFE60, 0x3918), (0xFE61, 0xFE61, 0xE826), (0xFE62, 0xFE62, 0x39CF),
  (0xFE63, 0xFE63, 0x39DF), (0xFE64, 0xFE64, 0x3A73), (0xFE65, 0xFE65, 0x39D0),
  (0xFE66, 0xFE67, 0xE82B), (0xFE68, 0xFE68, 0x3B4E), (0xFE69, 0xFE69, 0x3C6E),
  (0xFE6A, 0xFE6A, 0x3CE0), (0xFE6B, 0xFE6B, 0x2EA7), (0xFE6C, 0xFE6D, 0xE831),
  (0xFE6E, 0xFE6E, 0x2EAA), (0xFE6F, 0xFE6F, 0x4056), (0xFE70, 0xFE70, 0x415F),
  (0xFE71, 0xFE71, 0x2EAE), (0xFE72, 0xFE72, 0x4337), (0xFE73, 0xFE73, 0x2EB3),
  (0xFE74, 0xFE75, 0x2EB6), (0xFE76, 0xFE76, 0xE83B), (0xFE77, 0xFE77, 0x43B1),
  (0xFE78, 0xFE78, 0x43AC), (0xFE79, 0xFE79, 0x2EBB), (0xFE7A, 0xFE7A, 0x43DD),
  (0xFE7B, 0xFE7B, 0x44D6), (0xFE7C, 0xFE7C, 0x4661), (0xFE7D, 0xFE7D, 0x464C),
  (0xFE7E, 0xFE7E, 0xE843), (0xFE80, 0xFE80, 0x4723), (0xFE81, 0xFE81, 0x4729),
  (0xFE82, 0xFE82, 0x477C), (0xFE83, 0xFE83, 0x478D), (0xFE84, 0xFE84, 0x2ECA),
  (0xFE85, 0xFE85, 0x4947), (0xFE86, 0xFE86, 0x497A), (0xFE87, 0xFE87, 0x497D),
  (0xFE88, 0xFE89, 0x4982), (0xFE8A, 0xFE8B, 0x4985), (0xFE8C, 0xFE8C, 0x499F),
  (0xFE8D, 0xFE8D, 0x499B), (0xFE8E, 0xFE8E, 0x49B7), (0xFE8F, 0xFE8F, 0x49B6),
  (0xFE90, 0xFE91, 0xE854), (0xFE92, 0xFE92, 0x4CA3), (0xFE93, 0xFE95, 0x4C9F),
  (0xFE96, 0xFE96, 0x4C77), (0xFE97, 0xFE97, 0x4CA2), (0xFE98, 0xFE9E, 0x4D13),
  (0xFE9F, 0xFE9F, 0x4DAE), (0xFEA0, 0xFEA0, 0xE864), (0xFEA1, 0xFEFE, 0xE468)]

def gb18030Ranges : List (Nat × Nat) := [
  (0, 0x80), (36, 0xA5), (38, 0xA9), (45, 0xB2), (50, 0xB8), (81, 0xD8), (89, 0xE2),
  (95, 0xEB), (96, 0xEE), (100, 0xF4), (103, 0xF8), (104, 0xFB), (105, 0xFD), (109, 0x102),
  (126, 0x114), (133, 0x11C), (148, 0x12C), (172, 0x145), (175, 0x149), (179, 0x14E),
  (208, 0x16C), (306, 0x1CF), (307, 0x1D1), (308, 0x1D3), (309, 0x1D5), (310, 0x1D7),
  (311, 0x1D9), (312, 0x1DB), (313, 0x1DD), (341, 0x1FA), (428, 0x252), (443, 0x262),
  (544, 0x2C8), (545, 0x2CC), (558, 0x2DA), (741, 0x3A2), (742, 0x3AA), (749, 0x3C2),
  (750, 0x3CA), (805, 0x402), (819, 0x450), (820, 0x452), (7922, 0x2011), (7924, 0x2017),
  (7925, 0x201A), (7927, 0x201E), (7934, 0x2027), (7943, 0x2031), (7944, 0x2034),
  (7945, 0x2036), (7950, 0x203C), (8062, 0x20AD), (8148, 0x2104), (8149, 0x2106),
  (8152, 0x210A), (8164, 0x2117), (8174, 0x2122), (8236, 0x216C), (8240, 0x217A),
  (8262, 0x2194), (8264, 0x219A), (8374, 0x2209), (8380, 0x2210), (8381, 0x2212),
  (8384, 0x2216), (8388, 0x221B), (8390, 0x2221), (8392, 0x2224), (8393, 0x2226),
  (8394, 0x222C), (8396, 0x222F), (8401, 0x2238), (8406, 0x223E), (8416, 0x2249),
  (8419, 0x224D), (8424, 0x2253), (8437, 0x2262), (8439, 0x2268), (8445, 0x2270),
  (8482, 0x2296), (8485, 0x229A), (8496, 0x22A6), (8521, 0x22C0), (8603, 0x2313),
  (8936, 0x246A), (8946, 0x249C), (9046, 0x254C), (9050, 0x2574), (9063, 0x2590),
  (9066, 0x2596), (9076, 0x25A2), (9092, 0x25B4), (9100, 0x25BE), (9108, 0x25C8),
  (9111, 0x25CC), (9113, 0x25D0), (9131, 0x25E6), (9162, 0x2607), (9164, 0x260A),
  (9218, 0x2641), (9219, 0x2643), (11329, 0x2E82), (11331, 0x2E85), (11334, 0x2E89),
  (11336, 0x2E8D), (11346, 0x2E98), (11361, 0x2EA8), (11363, 0x2EAB), (11366, 0x2EAF),
  (11370, 0x2EB4), (11372, 0x2EB8), (11375, 0x2EBC), (11389, 0x2ECB), (11682, 0x2FFC),
  (11686, 0x3004), (11687, 0x3018), (11692, 0x301F), (11694, 0x302A), (11714, 0x303F),
  (11716, 0x3094), (11723, 0x309F), (11725, 0x30F7), (11730, 0x30FF), (11736, 0x312A),
  (11982, 0x322A), (11989, 0x3232), (12102, 0x32A4), (12336, 0x3390), (12348, 0x339F),
  (12350, 0x33A2), (12384, 0x33C5), (12393, 0x33CF), (12395, 0x33D3), (12397, 0x33D6),
  (12510, 0x3448), (12553, 0x3474), (12851, 0x359F), (12962, 0x360F), (12973, 0x361B),
  (13738, 0x3919), (13823, 0x396F), (13919, 0x39D1), (13933, 0x39E0), (14080, 0x3A74),
  (14298, 0x3B4F), (14585, 0x3C6F), (14698, 0x3CE1), (15583, 0x4057), (15847, 0x4160),
  (16318, 0x4338), (16434, 0x43AD), (16438, 0x43B2), (16481, 0x43DE), (16729, 0x44D7),
  (17102, 0x464D), (17122, 0x4662), (17315, 0x4724), (17320, 0x472A), (17402, 0x477D),
  (17418, 0x478E), (17859, 0x4948), (17909, 0x497B), (17911, 0x497E), (17915, 0x4984),
  (17916, 0x4987), (17936, 0x499C), (17939, 0x49A0), (17961, 0x49B8), (18664, 0x4C78),
  (18703, 0x4CA4), (18814, 0x4D1A), (18962, 0x4DAF), (19043, 0x9FA6), (33469, 0xE76C),
  (33470, 0xE7C8), (33471, 0xE7E7), (33484, 0xE815), (33485, 0xE819), (33490, 0xE81F),
  (33497, 0xE827), (33501, 0xE82D), (33505, 0xE833), (33513, 0xE83C), (33520, 0xE844),
  (33536, 0xE856), (33550, 0xE865), (37845, 0xF92D), (37921, 0xF97A), (37948, 0xF996),
  (38029, 0xF9E8), (38038, 0xF9F2), (38064, 0xFA10), (38065, 0xFA12), (38066, 0xFA15),
  (38069, 0xFA19), (38075, 0xFA22), (38076, 0xFA25), (38078, 0xFA2A), (39108, 0xFE32),
  (39109, 0xFE45), (39113, 0xFE53), (39114, 0xFE58), (39115, 0xFE67), (39116, 0xFE6C),
  (39265, 0xFF5F), (39394, 0xFFE6)]

def gb18030Basic : Nat := 39420

namespace Simplified

def cell? (b c : Nat) : Option Nat :=
  if 0x81 ≤ b ∧ b ≤ 0xFE ∧ 0x40 ≤ c ∧ c ≤ 0xFE ∧ c ≠ 0x7F then
    some ((b - 0x81) * 190 + if c < 0x7F then c - 0x40 else c - 0x41)
  else none

def wide? (b c : Nat) : Option Char := (cell? b c).bind gbk.char?

def isFullRow (b : Nat) : Bool :=
  b == 0xA1 || b == 0xA3 || (decide (0xB0 ≤ b) && decide (b ≤ 0xF7) && b != 0xD7)

def runs : List (Nat × Nat) := [
  (0xA2B1, 0xA2E2), (0xA2E5, 0xA2EE), (0xA2F1, 0xA2FC), (0xA4A1, 0xA4F3), (0xA5A1, 0xA5F6),
  (0xA6A1, 0xA6B8), (0xA6C1, 0xA6D8), (0xA7A1, 0xA7C1), (0xA7D1, 0xA7F1), (0xA8A1, 0xA8BA),
  (0xA8C5, 0xA8E9), (0xA9A4, 0xA9EF), (0xD7A1, 0xD7F9)]

def inRuns (code : Nat) : Bool := runs.any fun (i, k) => decide (i ≤ code) && decide (code ≤ k)

def narrow? (b c : Nat) : Option Char :=
  if c < 0xA1 then none
  else if !(isFullRow b || inRuns (b * 256 + c)) then none
  else if b = 0xA1 ∧ c = 0xA4 then some '\u30fb'
  else if b = 0xA1 ∧ c = 0xAA then some '\u2015'
  else wide? b c

def gb2312 : Nat → List Nat → Reading := .pair fun b c => (narrow? b c).map fun c => [c]

def gbkPairs : Nat → List Nat → Reading := .pair fun b c => (wide? b c).map fun c => [c]

def filled? (b c : Nat) : Option Char :=
  let code := b * 256 + c
  match gb18030Runs.find? fun (i, k, _) => decide (i ≤ code) && decide (code ≤ k) with
  | some (i, _, first) => do
    let m ← cell? (i / 256) (i % 256)
    let n ← cell? b c
    return Char.ofNat (first + (n - m))
  | none => none

def basic? (n : Nat) : Option Char :=
  if n < gb18030Basic then
    (gb18030Ranges.reverse.find? fun (m, _) => decide (m ≤ n)).map fun (m, first) =>
      Char.ofNat (first + (n - m))
  else none

def four? (b c d e : Nat) : Option Char :=
  if 0x81 ≤ b ∧ b ≤ 0xFE ∧ 0x81 ≤ d ∧ d ≤ 0xFE ∧ 0x30 ≤ e ∧ e ≤ 0x39 then
    let n := (b - 0x81) * 12600 + (c - 0x30) * 1260 + (d - 0x81) * 10 + (e - 0x30)
    if b < 0x85 then basic? n
    else
      let beyond := 15 * 12600
      if beyond ≤ n ∧ n - beyond < 0x100000 then some (Char.ofNat (0x10000 + (n - beyond)))
      else none
  else none

def gb18030 (b : Nat) (r : List Nat) : Reading :=
  if b < 0x80 then .byte b
  else
    match r with
    | [] => .cut r
    | c :: t =>
      if 0x30 ≤ c ∧ c ≤ 0x39 then
        match t with
        | d :: e :: _ => .ofChar? (four? b c d e) 3
        | _ => .cut r
      else .ofChar? (wide? b c <|> filled? b c) 1

def switched : Machine Bool where
  start := false
  step on b r :=
    if b = '~'.toNat then
      match r with
      | [] => (.cut r, on)
      | c :: _ =>
        if on then
          if c = '\x7d'.toNat then (.text [] 1, false) else (.fault 0, on)
        else if c = '~'.toNat then (.text ['~'] 1, on)
        else if c = '\x7b'.toNat then (.text [] 1, true)
        else if c = '\n'.toNat then (.text [] 1, on)
        else (.fault 0, on)
    else if 0x80 ≤ b then (.fault 0, on)
    else if on then
      match r with
      | [] => (.cut r, on)
      | c :: _ => (.ofChar? (narrow? (b + 0x80) (c + 0x80)) 1, on)
    else (.byte b, on)
  finish _ := []

end Simplified

namespace Traditional

def cell? (b c : Nat) : Option Nat :=
  if b < 0x81 ∨ 0xFE < b then none
  else if 0x40 ≤ c ∧ c ≤ 0x7E then some ((b - 0x81) * 157 + (c - 0x40))
  else if 0xA1 ≤ c ∧ c ≤ 0xFE then some ((b - 0x81) * 157 + (c - 0x62))
  else none

def big5Pairs : Nat → List Nat → Reading :=
  .pair fun b c => ((cell? b c).bind big5.char?).map fun c => [c]

def windows : Nat → List Nat → Reading :=
  .pair fun b c =>
    ((cell? b c).bind fun n => windowsBig5.lookup n <|> big5.char? n).map fun c => [c]

def isOwn (b c : Nat) : Bool := (b == 0xC6 && decide (0xA1 ≤ c)) || b == 0xC7 || b == 0xC8

def supplemented? (b c : Nat) : Option (List Char) := do
  let n ← cell? b c
  let shared := if isOwn b c then none else big5.char? n
  match shared <|> hkscs.char? n with
  | some c => return [c]
  | none => (hkscsPairs.lookup n).map fun cs => cs.map Char.ofNat

def hongKong : Nat → List Nat → Reading := .pair supplemented?

end Traditional

end CrateDocs.Charset
