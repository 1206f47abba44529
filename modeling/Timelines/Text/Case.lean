import Timelines.Text.Categories

/-! Lower case, letter by letter, and the one letter whose form depends on what stands around it: a
capital sigma at the end of a word becomes a final sigma. -/
namespace Timelines.Text

/-- Capital letters beyond ASCII and their lower-case forms. -/
def lowerRules : List Rule := Rule.list "
C0-D6>E0 D8-DE>F8 100-12E/2>101 130>69.307 132-136/2>133 139-147/2>13A 14A-176/2>14B 178>FF
179-17D/2>17A 181>253 182-184/2>183 186>254 187>188 189-18A>256 18B>18C 18E>1DD 18F>259 190>25B
191>192 193>260 194>263 196>269 197>268 198>199 19C>26F 19D>272 19F>275 1A0-1A4/2>1A1 1A6>280
1A7>1A8 1A9>283 1AC>1AD 1AE>288 1AF>1B0 1B1-1B2>28A 1B3-1B5/2>1B4 1B7>292 1B8>1B9 1BC>1BD 1C4>1C6
1C5>1C6 1C7>1C9 1C8>1C9 1CA>1CC 1CB-1DB/2>1CC 1DE-1EE/2>1DF 1F1>1F3 1F2-1F4/2>1F3 1F6>195 1F7>1BF
1F8-21E/2>1F9 220>19E 222-232/2>223 23A>2C65 23B>23C 23D>19A 23E>2C66 241>242 243>180 244>289
245>28C 246-24E/2>247 370-372/2>371 376>377 37F>3F3 386>3AC 388-38A>3AD 38C>3CC 38E-38F>3CD
391-3A1>3B1 3A3-3AB>3C3 3CF>3D7 3D8-3EE/2>3D9 3F4>3B8 3F7>3F8 3F9>3F2 3FA>3FB 3FD-3FF>37B
400-40F>450 410-42F>430 460-480/2>461 48A-4BE/2>48B 4C0>4CF 4C1-4CD/2>4C2 4D0-52E/2>4D1 531-556>561
10A0-10C5>2D00 10C7>2D27 10CD>2D2D 13A0-13EF>AB70 13F0-13F5>13F8 1C89>1C8A 1C90-1CBA>10D0
1CBD-1CBF>10FD 1E00-1E94/2>1E01 1E9E>DF 1EA0-1EFE/2>1EA1 1F08-1F0F>1F00 1F18-1F1D>1F10
1F28-1F2F>1F20 1F38-1F3F>1F30 1F48-1F4D>1F40 1F59-1F5F/2>1F51 1F68-1F6F>1F60 1F88-1F8F>1F80
1F98-1F9F>1F90 1FA8-1FAF>1FA0 1FB8-1FB9>1FB0 1FBA-1FBB>1F70 1FBC>1FB3 1FC8-1FCB>1F72 1FCC>1FC3
1FD8-1FD9>1FD0 1FDA-1FDB>1F76 1FE8-1FE9>1FE0 1FEA-1FEB>1F7A 1FEC>1FE5 1FF8-1FF9>1F78 1FFA-1FFB>1F7C
1FFC>1FF3 2126>3C9 212A>6B 212B>E5 2132>214E 2160-216F>2170 2183>2184 24B6-24CF>24D0 2C00-2C2F>2C30
2C60>2C61 2C62>26B 2C63>1D7D 2C64>27D 2C67-2C6B/2>2C68 2C6D>251 2C6E>271 2C6F>250 2C70>252
2C72>2C73 2C75>2C76 2C7E-2C7F>23F 2C80-2CE2/2>2C81 2CEB-2CED/2>2CEC 2CF2>2CF3 A640-A66C/2>A641
A680-A69A/2>A681 A722-A72E/2>A723 A732-A76E/2>A733 A779-A77B/2>A77A A77D>1D79 A77E-A786/2>A77F
A78B>A78C A78D>265 A790-A792/2>A791 A796-A7A8/2>A797 A7AA>266 A7AB>25C A7AC>261 A7AD>26C A7AE>26A
A7B0>29E A7B1>287 A7B2>29D A7B3>AB53 A7B4-A7C2/2>A7B5 A7C4>A794 A7C5>282 A7C6>1D8E A7C7-A7C9/2>A7C8
A7CB>264 A7CC-A7DA/2>A7CD A7DC>19B A7F5>A7F6 FF21-FF3A>FF41 10400-10427>10428 104B0-104D3>104D8
10570-1057A>10597 1057C-1058A>105A3 1058C-10592>105B3 10594-10595>105BB 10C80-10CB2>10CC0
10D50-10D65>10D70 118A0-118BF>118C0 16E40-16E5F>16E60 16EA0-16EB8>16EBB 1E900-1E921>1E922"

/-- Letters beyond ASCII that have a case. -/
def cased : List Range := Range.list "
AA B5 BA C0-D6 D8-F6 F8-1BA 1BC-1BF 1C4-293 296-2B8 2C0-2C1 2E0-2E4 345 370-373 376-377 37A-37D 37F
386 388-38A 38C 38E-3A1 3A3-3F5 3F7-481 48A-52F 531-556 560-588 10A0-10C5 10C7 10CD 10D0-10FA
10FC-10FF 13A0-13F5 13F8-13FD 1C80-1C8A 1C90-1CBA 1CBD-1CBF 1D00-1DBF 1E00-1F15 1F18-1F1D 1F20-1F45
1F48-1F4D 1F50-1F57 1F59 1F5B 1F5D 1F5F-1F7D 1F80-1FB4 1FB6-1FBC 1FBE 1FC2-1FC4 1FC6-1FCC 1FD0-1FD3
1FD6-1FDB 1FE0-1FEC 1FF2-1FF4 1FF6-1FFC 2071 207F 2090-209C 2102 2107 210A-2113 2115 2119-211D 2124
2126 2128 212A-212D 212F-2134 2139 213C-213F 2145-2149 214E 2160-217F 2183-2184 24B6-24E9 2C00-2CE4
2CEB-2CEE 2CF2-2CF3 2D00-2D25 2D27 2D2D A640-A66D A680-A69D A722-A787 A78B-A78E A790-A7DC A7F1-A7F6
A7F8-A7FA AB30-AB5A AB5C-AB69 AB70-ABBF FB00-FB06 FB13-FB17 FF21-FF3A FF41-FF5A 10400-1044F
104B0-104D3 104D8-104FB 10570-1057A 1057C-1058A 1058C-10592 10594-10595 10597-105A1 105A3-105B1
105B3-105B9 105BB-105BC 10780 10783-10785 10787-107B0 107B2-107BA 10C80-10CB2 10CC0-10CF2
10D50-10D65 10D70-10D85 118A0-118DF 16E40-16E7F 16EA0-16EB8 16EBB-16ED3 1D400-1D454 1D456-1D49C
1D49E-1D49F 1D4A2 1D4A5-1D4A6 1D4A9-1D4AC 1D4AE-1D4B9 1D4BB 1D4BD-1D4C3 1D4C5-1D505 1D507-1D50A
1D50D-1D514 1D516-1D51C 1D51E-1D539 1D53B-1D53E 1D540-1D544 1D546 1D54A-1D550 1D552-1D6A5
1D6A8-1D6C0 1D6C2-1D6DA 1D6DC-1D6FA 1D6FC-1D714 1D716-1D734 1D736-1D74E 1D750-1D76E 1D770-1D788
1D78A-1D7A8 1D7AA-1D7C2 1D7C4-1D7CB 1DF00-1DF09 1DF0B-1DF1E 1DF25-1DF2A 1E030-1E06D 1E900-1E943
1F130-1F149 1F150-1F169 1F170-1F189"

/-- Characters beyond ASCII that may stand inside a word without having a case, nonspacing marks
apart. -/
def caseIgnorable : List Range := Range.list "
A8 AD AF B4 B7-B8 2B0-2FF 374-375 37A 384-385 387 559 55F 5F4 600-605 61C 640 6DD 6E5-6E6 70F
7F4-7F5 7FA 81A 824 828 888 890-891 8C9 8E2 971 E46 EC6 10FC 17D7 180E 1843 1AA7 1C78-1C7D
1D2C-1D6A 1D78 1D9B-1DBF 1FBD 1FBF-1FC1 1FCD-1FCF 1FDD-1FDF 1FED-1FEF 1FFD-1FFE 200B-200F 2018-2019
2024 2027 202A-202E 2060-2064 2066-206F 2071 207F 2090-209C 2C7C-2C7D 2D6F 2E2F 3005 3031-3035 303B
309B-309E 30FC-30FE A015 A4F8-A4FD A60C A67F A69C-A69D A700-A721 A770 A788-A78A A7F1-A7F4 A7F8-A7F9
A9CF A9E6 AA70 AADD AAF3-AAF4 AB5B-AB5F AB69-AB6B FBB2-FBC2 FE13 FE52 FE55 FEFF FF07 FF0E FF1A FF3E
FF40 FF70 FF9E-FF9F FFE3 FFF9-FFFB 10780-10785 10787-107B0 107B2-107BA 10D4E 10D6F 10EC5 110BD
110CD 11DD9 13430-1343F 16B40-16B43 16D40-16D42 16D6B-16D6C 16F93-16F9F 16FE0-16FE1 16FE3
16FF2-16FF3 1AFF0-1AFF3 1AFF5-1AFFB 1AFFD-1AFFE 1BCA0-1BCA3 1D173-1D17A 1E030-1E06D 1E137-1E13D
1E4EB 1E6FF 1E94B 1F3FB-1F3FF E0001 E0020-E007F"

/-- The lower-case form of a letter by itself. -/
def lowerChar (c : Char) : List Char :=
  if c.toNat < 0x80 then [c.toLower] else (replaced? lowerRules c).getD [c]

def isCased (c : Char) : Bool :=
  if c.toNat < 0x80 then c.isAlpha else within cased c

def isCaseIgnorable (c : Char) : Bool :=
  if c.toNat < 0x80 then "'.:^`".toList.contains c
  else within caseIgnorable c || within nonspacing c

/-- Whether the first character that counts is a letter with a case. -/
def nextToCased (cs : List Char) : Bool :=
  match cs.dropWhile isCaseIgnorable with
  | c :: _ => isCased c
  | [] => false

/-- The lower-case form of what follows the characters `before`, the last of which stands first. -/
def lowerAfter (before : List Char) : List Char → List Char
  | [] => []
  | 'Σ' :: cs =>
    (if nextToCased before && !nextToCased cs then 'ς' else 'σ') :: lowerAfter ('Σ' :: before) cs
  | c :: cs => lowerChar c ++ lowerAfter (c :: before) cs

def lowerText (s : String) : String := String.ofList (lowerAfter [] s.toList)

/-- A text with its ASCII letters in lower case. -/
def lower (cs : List Char) : List Char := cs.map Char.toLower

end Timelines.Text
