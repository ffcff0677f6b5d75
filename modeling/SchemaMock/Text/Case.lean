/-
# Letters, their case, and names made of words

Which characters are letters and numbers, which of them are capitals, and what their other case is,
are data of a standard; the tables hold what goes beyond the categories.  Below code point 128 every
question is answered by arithmetic alone, so that the common case needs no table.

A name in camel case is made from the words of a text.  A word ends where a character is neither a
letter nor a number, where a capital follows a small letter, and before the last capital of a run
of capitals that a small letter follows; digits end no word.  Each word then gets a capital in
front and small letters behind it.
-/
import SchemaMock.Text.Category

namespace SchemaMock.Text

/-! ## 1. Properties -/

/-- Alphabetic characters that are neither letters nor numbers written with letters. -/
def otherAlphabetic : CodePoints := CodePoints.ofText
  "
  345 363-36F 5B0-5BD 5BF 5C1-5C2 5C4-5C5 5C7 610-61A 64B-657 659-65F 670 6D6-6DC 6E1-6E4
  6E7-6E8 6ED 711 730-73F 7A6-7B0 816-817 81B-823 825-827 829-82C 897 8D4-8DF 8E3-8E9 8F0-903
  93A-93B 93E-94C 94E-94F 955-957 962-963 981-983 9BE-9C4 9C7-9C8 9CB-9CC 9D7 9E2-9E3 A01-A03
  A3E-A42 A47-A48 A4B-A4C A51 A70-A71 A75 A81-A83 ABE-AC5 AC7-AC9 ACB-ACC AE2-AE3 AFA-AFC
  B01-B03 B3E-B44 B47-B48 B4B-B4C B56-B57 B62-B63 B82 BBE-BC2 BC6-BC8 BCA-BCC BD7 C00-C04
  C3E-C44 C46-C48 C4A-C4C C55-C56 C62-C63 C81-C83 CBE-CC4 CC6-CC8 CCA-CCC CD5-CD6 CE2-CE3 CF3
  D00-D03 D3E-D44 D46-D48 D4A-D4C D57 D62-D63 D81-D83 DCF-DD4 DD6 DD8-DDF DF2-DF3 E31 E34-E3A
  E4D EB1 EB4-EB9 EBB-EBC ECD F71-F83 F8D-F97 F99-FBC 102B-1036 1038 103B-103E 1056-1059
  105E-1060 1062-1064 1067-106D 1071-1074 1082-108D 108F 109A-109D 1712-1713 1732-1733
  1752-1753 1772-1773 17B6-17C8 1885-1886 18A9 1920-192B 1930-1938 1A17-1A1B 1A55-1A5E
  1A61-1A74 1ABF-1AC0 1ACC-1ACE 1B00-1B04 1B35-1B43 1B80-1B82 1BA1-1BA9 1BAC-1BAD 1BE7-1BF1
  1C24-1C36 1DD3-1DF4 24B6-24E9 2DE0-2DFF A674-A67B A69E-A69F A802 A80B A823-A827 A880-A881
  A8B4-A8C3 A8C5 A8FF A926-A92A A947-A952 A980-A983 A9B4-A9BF A9E5 AA29-AA36 AA43 AA4C-AA4D
  AA7B-AA7D AAB0 AAB2-AAB4 AAB7-AAB8 AABE AAEB-AAEF AAF5 ABE3-ABEA FB1E 10376-1037A 10A01-10A03
  10A05-10A06 10A0C-10A0F 10D24-10D27 10D69 10EAB-10EAC 10EFA-10EFC 11000-11002 11038-11045
  11073-11074 11080-11082 110B0-110B8 110C2 11100-11102 11127-11132 11145-11146 11180-11182
  111B3-111BF 111CE-111CF 1122C-11234 11237 1123E 11241 112DF-112E8 11300-11303 1133E-11344
  11347-11348 1134B-1134C 11357 11362-11363 113B8-113C0 113C2 113C5 113C7-113CA 113CC-113CD
  11435-11441 11443-11445 114B0-114C1 115AF-115B5 115B8-115BE 115DC-115DD 11630-1163E 11640
  116AB-116B5 1171D-1172A 1182C-11838 11930-11935 11937-11938 1193B-1193C 11940 11942
  119D1-119D7 119DA-119DF 119E4 11A01-11A0A 11A35-11A39 11A3B-11A3E 11A51-11A5B 11A8A-11A97
  11B60-11B67 11C2F-11C36 11C38-11C3E 11C92-11CA7 11CA9-11CB6 11D31-11D36 11D3A 11D3C-11D3D
  11D3F-11D41 11D43 11D47 11D8A-11D8E 11D90-11D91 11D93-11D96 11EF3-11EF6 11F00-11F01 11F03
  11F34-11F3A 11F3E-11F40 1611E-1612E 16F4F 16F51-16F87 16F8F-16F92 16FF0-16FF1 1BC9E
  1E000-1E006 1E008-1E018 1E01B-1E021 1E023-1E024 1E026-1E02A 1E08F 1E6E3 1E6E6 1E6EE-1E6EF
  1E6F5 1E947 1F130-1F149 1F150-1F169 1F170-1F189"

/-- Small characters that are no small letters. -/
def otherLowercase : CodePoints := CodePoints.ofText
  "
  AA BA 2B0-2B8 2C0-2C1 2E0-2E4 345 37A 10FC 1D2C-1D6A 1D78 1D9B-1DBF 2071 207F 2090-209C
  2170-217F 24D0-24E9 2C7C-2C7D A69C-A69D A770 A7F1-A7F4 A7F8-A7F9 AB5C-AB5F AB69 10780
  10783-10785 10787-107B0 107B2-107BA 1E030-1E06D"

/-- Capitals that are no letters. -/
def otherUppercase : CodePoints := CodePoints.ofText
  "
  2160-216F 24B6-24CF 1F130-1F149 1F150-1F169 1F170-1F189"

/-- Whether a character belongs to the first half of a byte. -/
def isAscii (c : Char) : Bool := c.toNat < 128

/-- Whether a character is a capital. -/
def isUpper (c : Char) : Bool :=
  if isAscii c then c.isUpper
  else Category.upperLetter.contains c || otherUppercase.contains c

/-- Whether a character is a small one. -/
def isLower (c : Char) : Bool :=
  if isAscii c then c.isLower
  else Category.lowerLetter.contains c || otherLowercase.contains c

/-- Whether a character is alphabetic. -/
def isAlphabetic (c : Char) : Bool :=
  if isAscii c then c.isAlpha
  else Category.anyContains Category.letters c || Category.letterNumber.contains c
    || otherAlphabetic.contains c

/-- Whether a character is a number of any kind. -/
def isNumeric (c : Char) : Bool :=
  if isAscii c then c.isDigit else Category.anyContains Category.numbers c

/-- Whether a character can stand in a word. -/
def isAlphanumeric (c : Char) : Bool := isAlphabetic c || isNumeric c

/-! ## 2. Case maps -/

/-- The small forms of characters that have one. -/
def lowerForms : CodePointMap := CodePointMap.ofText
  "
  41-5A>61 C0-D6>E0 D8-DE>F8 100-12E/2>101 132-136/2>133 139-147/2>13A 14A-176/2>14B 178>FF
  179-17D/2>17A 181>253 182-184/2>183 186>254 187>188 189-18A>256 18B>18C 18E>1DD 18F>259
  190>25B 191>192 193>260 194>263 196>269 197>268 198>199 19C>26F 19D>272 19F>275 1A0-1A4/2>1A1
  1A6>280 1A7>1A8 1A9>283 1AC>1AD 1AE>288 1AF>1B0 1B1-1B2>28A 1B3-1B5/2>1B4 1B7>292 1B8>1B9
  1BC>1BD 1C4>1C6 1C5>1C6 1C7>1C9 1C8>1C9 1CA>1CC 1CB-1DB/2>1CC 1DE-1EE/2>1DF 1F1>1F3
  1F2-1F4/2>1F3 1F6>195 1F7>1BF 1F8-21E/2>1F9 220>19E 222-232/2>223 23A>2C65 23B>23C 23D>19A
  23E>2C66 241>242 243>180 244>289 245>28C 246-24E/2>247 370-372/2>371 376>377 37F>3F3 386>3AC
  388-38A>3AD 38C>3CC 38E-38F>3CD 391-3A1>3B1 3A3-3AB>3C3 3CF>3D7 3D8-3EE/2>3D9 3F4>3B8 3F7>3F8
  3F9>3F2 3FA>3FB 3FD-3FF>37B 400-40F>450 410-42F>430 460-480/2>461 48A-4BE/2>48B 4C0>4CF
  4C1-4CD/2>4C2 4D0-52E/2>4D1 531-556>561 10A0-10C5>2D00 10C7>2D27 10CD>2D2D 13A0-13EF>AB70
  13F0-13F5>13F8 1C89>1C8A 1C90-1CBA>10D0 1CBD-1CBF>10FD 1E00-1E94/2>1E01 1E9E>DF
  1EA0-1EFE/2>1EA1 1F08-1F0F>1F00 1F18-1F1D>1F10 1F28-1F2F>1F20 1F38-1F3F>1F30 1F48-1F4D>1F40
  1F59-1F5F/2>1F51 1F68-1F6F>1F60 1F88-1F8F>1F80 1F98-1F9F>1F90 1FA8-1FAF>1FA0 1FB8-1FB9>1FB0
  1FBA-1FBB>1F70 1FBC>1FB3 1FC8-1FCB>1F72 1FCC>1FC3 1FD8-1FD9>1FD0 1FDA-1FDB>1F76
  1FE8-1FE9>1FE0 1FEA-1FEB>1F7A 1FEC>1FE5 1FF8-1FF9>1F78 1FFA-1FFB>1F7C 1FFC>1FF3 2126>3C9
  212A>6B 212B>E5 2132>214E 2160-216F>2170 2183>2184 24B6-24CF>24D0 2C00-2C2F>2C30 2C60>2C61
  2C62>26B 2C63>1D7D 2C64>27D 2C67-2C6B/2>2C68 2C6D>251 2C6E>271 2C6F>250 2C70>252 2C72>2C73
  2C75>2C76 2C7E-2C7F>23F 2C80-2CE2/2>2C81 2CEB-2CED/2>2CEC 2CF2>2CF3 A640-A66C/2>A641
  A680-A69A/2>A681 A722-A72E/2>A723 A732-A76E/2>A733 A779-A77B/2>A77A A77D>1D79
  A77E-A786/2>A77F A78B>A78C A78D>265 A790-A792/2>A791 A796-A7A8/2>A797 A7AA>266 A7AB>25C
  A7AC>261 A7AD>26C A7AE>26A A7B0>29E A7B1>287 A7B2>29D A7B3>AB53 A7B4-A7C2/2>A7B5 A7C4>A794
  A7C5>282 A7C6>1D8E A7C7-A7C9/2>A7C8 A7CB>264 A7CC-A7DA/2>A7CD A7DC>19B A7F5>A7F6
  FF21-FF3A>FF41 10400-10427>10428 104B0-104D3>104D8 10570-1057A>10597 1057C-1058A>105A3
  1058C-10592>105B3 10594-10595>105BB 10C80-10CB2>10CC0 10D50-10D65>10D70 118A0-118BF>118C0
  16E40-16E5F>16E60 16EA0-16EB8>16EBB 1E900-1E921>1E922
  130>69+307"

/-- The capital forms of characters that have one. -/
def upperForms : CodePointMap := CodePointMap.ofText
  "
  61-7A>41 B5>39C E0-F6>C0 F8-FE>D8 FF>178 101-12F/2>100 131>49 133-137/2>132 13A-148/2>139
  14B-177/2>14A 17A-17E/2>179 17F>53 180>243 183-185/2>182 188>187 18C>18B 192>191 195>1F6
  199>198 19A>23D 19B>A7DC 19E>220 1A1-1A5/2>1A0 1A8>1A7 1AD>1AC 1B0>1AF 1B4-1B6/2>1B3 1B9>1B8
  1BD>1BC 1BF>1F7 1C5>1C4 1C6>1C4 1C8>1C7 1C9>1C7 1CB>1CA 1CC>1CA 1CE-1DC/2>1CD 1DD>18E
  1DF-1EF/2>1DE 1F2>1F1 1F3>1F1 1F5>1F4 1F9-21F/2>1F8 223-233/2>222 23C>23B 23F-240>2C7E
  242>241 247-24F/2>246 250>2C6F 251>2C6D 252>2C70 253>181 254>186 256-257>189 259>18F 25B>190
  25C>A7AB 260>193 261>A7AC 263>194 264>A7CB 265>A78D 266>A7AA 268>197 269>196 26A>A7AE
  26B>2C62 26C>A7AD 26F>19C 271>2C6E 272>19D 275>19F 27D>2C64 280>1A6 282>A7C5 283>1A9 287>A7B1
  288>1AE 289>244 28A-28B>1B1 28C>245 292>1B7 29D>A7B2 29E>A7B0 345>399 371-373/2>370 377>376
  37B-37D>3FD 3AC>386 3AD-3AF>388 3B1-3C1>391 3C2>3A3 3C3-3CB>3A3 3CC>38C 3CD-3CE>38E 3D0>392
  3D1>398 3D5>3A6 3D6>3A0 3D7>3CF 3D9-3EF/2>3D8 3F0>39A 3F1>3A1 3F2>3F9 3F3>37F 3F5>395 3F8>3F7
  3FB>3FA 430-44F>410 450-45F>400 461-481/2>460 48B-4BF/2>48A 4C2-4CE/2>4C1 4CF>4C0
  4D1-52F/2>4D0 561-586>531 10D0-10FA>1C90 10FD-10FF>1CBD 13F8-13FD>13F0 1C80>412 1C81>414
  1C82>41E 1C83-1C84>421 1C85>422 1C86>42A 1C87>462 1C88>A64A 1C8A>1C89 1D79>A77D 1D7D>2C63
  1D8E>A7C6 1E01-1E95/2>1E00 1E9B>1E60 1EA1-1EFF/2>1EA0 1F00-1F07>1F08 1F10-1F15>1F18
  1F20-1F27>1F28 1F30-1F37>1F38 1F40-1F45>1F48 1F51-1F57/2>1F59 1F60-1F67>1F68 1F70-1F71>1FBA
  1F72-1F75>1FC8 1F76-1F77>1FDA 1F78-1F79>1FF8 1F7A-1F7B>1FEA 1F7C-1F7D>1FFA 1FB0-1FB1>1FB8
  1FBE>399 1FD0-1FD1>1FD8 1FE0-1FE1>1FE8 1FE5>1FEC 214E>2132 2170-217F>2160 2184>2183
  24D0-24E9>24B6 2C30-2C5F>2C00 2C61>2C60 2C65>23A 2C66>23E 2C68-2C6C/2>2C67 2C73>2C72
  2C76>2C75 2C81-2CE3/2>2C80 2CEC-2CEE/2>2CEB 2CF3>2CF2 2D00-2D25>10A0 2D27>10C7 2D2D>10CD
  A641-A66D/2>A640 A681-A69B/2>A680 A723-A72F/2>A722 A733-A76F/2>A732 A77A-A77C/2>A779
  A77F-A787/2>A77E A78C>A78B A791-A793/2>A790 A794>A7C4 A797-A7A9/2>A796 A7B5-A7C3/2>A7B4
  A7C8-A7CA/2>A7C7 A7CD-A7DB/2>A7CC A7F6>A7F5 AB53>A7B3 AB70-ABBF>13A0 FF41-FF5A>FF21
  10428-1044F>10400 104D8-104FB>104B0 10597-105A1>10570 105A3-105B1>1057C 105B3-105B9>1058C
  105BB-105BC>10594 10CC0-10CF2>10C80 10D70-10D85>10D50 118C0-118DF>118A0 16E60-16E7F>16E40
  16EBB-16ED3>16EA0 1E922-1E943>1E900
  DF>53+53 149>2BC+4E 1F0>4A+30C 390>399+308+301 3B0>3A5+308+301 587>535+552 1E96>48+331
  1E97>54+308 1E98>57+30A 1E99>59+30A 1E9A>41+2BE 1F50>3A5+313 1F52>3A5+313+300
  1F54>3A5+313+301 1F56>3A5+313+342 1F80>1F08+399 1F81>1F09+399 1F82>1F0A+399 1F83>1F0B+399
  1F84>1F0C+399 1F85>1F0D+399 1F86>1F0E+399 1F87>1F0F+399 1F88>1F08+399 1F89>1F09+399
  1F8A>1F0A+399 1F8B>1F0B+399 1F8C>1F0C+399 1F8D>1F0D+399 1F8E>1F0E+399 1F8F>1F0F+399
  1F90>1F28+399 1F91>1F29+399 1F92>1F2A+399 1F93>1F2B+399 1F94>1F2C+399 1F95>1F2D+399
  1F96>1F2E+399 1F97>1F2F+399 1F98>1F28+399 1F99>1F29+399 1F9A>1F2A+399 1F9B>1F2B+399
  1F9C>1F2C+399 1F9D>1F2D+399 1F9E>1F2E+399 1F9F>1F2F+399 1FA0>1F68+399 1FA1>1F69+399
  1FA2>1F6A+399 1FA3>1F6B+399 1FA4>1F6C+399 1FA5>1F6D+399 1FA6>1F6E+399 1FA7>1F6F+399
  1FA8>1F68+399 1FA9>1F69+399 1FAA>1F6A+399 1FAB>1F6B+399 1FAC>1F6C+399 1FAD>1F6D+399
  1FAE>1F6E+399 1FAF>1F6F+399 1FB2>1FBA+399 1FB3>391+399 1FB4>386+399 1FB6>391+342
  1FB7>391+342+399 1FBC>391+399 1FC2>1FCA+399 1FC3>397+399 1FC4>389+399 1FC6>397+342
  1FC7>397+342+399 1FCC>397+399 1FD2>399+308+300 1FD3>399+308+301 1FD6>399+342 1FD7>399+308+342
  1FE2>3A5+308+300 1FE3>3A5+308+301 1FE4>3A1+313 1FE6>3A5+342 1FE7>3A5+308+342 1FF2>1FFA+399
  1FF3>3A9+399 1FF4>38F+399 1FF6>3A9+342 1FF7>3A9+342+399 1FFC>3A9+399 FB00>46+46 FB01>46+49
  FB02>46+4C FB03>46+46+49 FB04>46+46+4C FB05>53+54 FB06>53+54 FB13>544+546 FB14>544+535
  FB15>544+53B FB16>54E+546 FB17>544+53D"

/-- For every character that differs from another one in case only: the first of those. -/
def foldedForms : CodePointMap := CodePointMap.ofText
  "
  61-7A>41 E0-F6>C0 F8-FE>D8 101-12F/2>100 133-137/2>132 13A-148/2>139 14B-177/2>14A 178>FF
  17A-17E/2>179 17F>53 183-185/2>182 188>187 18C>18B 192>191 199>198 1A1-1A5/2>1A0 1A8>1A7
  1AD>1AC 1B0>1AF 1B4-1B6/2>1B3 1B9>1B8 1BD>1BC 1C5>1C4 1C6>1C4 1C8>1C7 1C9>1C7 1CB>1CA 1CC>1CA
  1CE-1DC/2>1CD 1DD>18E 1DF-1EF/2>1DE 1F2>1F1 1F3>1F1 1F5>1F4 1F6>195 1F7>1BF 1F9-21F/2>1F8
  220>19E 223-233/2>222 23C>23B 23D>19A 242>241 243>180 247-24F/2>246 253>181 254>186
  256-257>189 259>18F 25B>190 260>193 263>194 268>197 269>196 26F>19C 272>19D 275>19F 280>1A6
  283>1A9 288>1AE 289>244 28A-28B>1B1 28C>245 292>1B7 371-373/2>370 377>376 399>345 39C>B5
  3AC>386 3AD-3AF>388 3B1-3B8>391 3B9>345 3BA-3BB>39A 3BC>B5 3BD-3C1>39D 3C2>3A3 3C3-3CB>3A3
  3CC>38C 3CD-3CE>38E 3D0>392 3D1>398 3D5>3A6 3D6>3A0 3D7>3CF 3D9-3EF/2>3D8 3F0>39A 3F1>3A1
  3F3>37F 3F4>398 3F5>395 3F8>3F7 3F9>3F2 3FB>3FA 3FD-3FF>37B 430-44F>410 450-45F>400
  461-481/2>460 48B-4BF/2>48A 4C2-4CE/2>4C1 4CF>4C0 4D1-52F/2>4D0 561-586>531 13F8-13FD>13F0
  1C80>412 1C81>414 1C82>41E 1C83-1C84>421 1C85>422 1C86>42A 1C87>462 1C8A>1C89 1C90-1CBA>10D0
  1CBD-1CBF>10FD 1E01-1E95/2>1E00 1E9B>1E60 1E9E>DF 1EA1-1EFF/2>1EA0 1F08-1F0F>1F00
  1F18-1F1D>1F10 1F28-1F2F>1F20 1F38-1F3F>1F30 1F48-1F4D>1F40 1F59-1F5F/2>1F51 1F68-1F6F>1F60
  1F88-1F8F>1F80 1F98-1F9F>1F90 1FA8-1FAF>1FA0 1FB8-1FB9>1FB0 1FBA-1FBB>1F70 1FBC>1FB3 1FBE>345
  1FC8-1FCB>1F72 1FCC>1FC3 1FD3>390 1FD8-1FD9>1FD0 1FDA-1FDB>1F76 1FE3>3B0 1FE8-1FE9>1FE0
  1FEA-1FEB>1F7A 1FEC>1FE5 1FF8-1FF9>1F78 1FFA-1FFB>1F7C 1FFC>1FF3 2126>3A9 212A>4B 212B>C5
  214E>2132 2170-217F>2160 2184>2183 24D0-24E9>24B6 2C30-2C5F>2C00 2C61>2C60 2C62>26B 2C63>1D7D
  2C64>27D 2C65>23A 2C66>23E 2C68-2C6C/2>2C67 2C6D>251 2C6E>271 2C6F>250 2C70>252 2C73>2C72
  2C76>2C75 2C7E-2C7F>23F 2C81-2CE3/2>2C80 2CEC-2CEE/2>2CEB 2CF3>2CF2 2D00-2D25>10A0 2D27>10C7
  2D2D>10CD A641-A649/2>A640 A64A>1C88 A64B>1C88 A64D-A66D/2>A64C A681-A69B/2>A680
  A723-A72F/2>A722 A733-A76F/2>A732 A77A-A77C/2>A779 A77D>1D79 A77F-A787/2>A77E A78C>A78B
  A78D>265 A791-A793/2>A790 A797-A7A9/2>A796 A7AA>266 A7AB>25C A7AC>261 A7AD>26C A7AE>26A
  A7B0>29E A7B1>287 A7B2>29D A7B5-A7C3/2>A7B4 A7C4>A794 A7C5>282 A7C6>1D8E A7C8-A7CA/2>A7C7
  A7CB>264 A7CD-A7DB/2>A7CC A7DC>19B A7F6>A7F5 AB53>A7B3 AB70-ABBF>13A0 FB06>FB05
  FF41-FF5A>FF21 10428-1044F>10400 104D8-104FB>104B0 10597-105A1>10570 105A3-105B1>1057C
  105B3-105B9>1058C 105BB-105BC>10594 10CC0-10CF2>10C80 10D70-10D85>10D50 118C0-118DF>118A0
  16E60-16E7F>16E40 16EBB-16ED3>16EA0 1E922-1E943>1E900"

/-- A character in capitals. -/
def toUpper (c : Char) : List Char :=
  if isAscii c then [c.toUpper] else (upperForms.get? c).getD [c]

/-- A character in small letters. -/
def toLower (c : Char) : List Char :=
  if isAscii c then [c.toLower] else (lowerForms.get? c).getD [c]

/-- All characters that differ from a character in case at most. -/
def caseVariants (c : Char) : List Char :=
  let first := ((foldedForms.get? c).bind List.head?).getD c
  first :: foldedForms.preimage first

/-! ## 3. Words -/

/-- The case of the last letter of a word, as far as it has been read. -/
inductive LetterCase where
  | none
  | lower
  | upper
  deriving DecidableEq, Repr

/-- The case after one more character: characters without case change nothing. -/
def LetterCase.next (seen : LetterCase) (c : Char) : LetterCase :=
  if isLower c then .lower else if isUpper c then .upper else seen

/-- The words of a run of letters and numbers; `current` is the word being read, in reverse. -/
def splitWords (seen : LetterCase) (current : List Char) : List Char → List (List Char)
  | [] => []
  | [c] => [(c :: current).reverse]
  | c :: d :: rest =>
    if seen.next c = .lower ∧ isUpper d then
      (c :: current).reverse :: splitWords .none [] (d :: rest)
    else if seen = .upper ∧ isUpper c ∧ isLower d then
      current.reverse :: splitWords .none [c] (d :: rest)
    else splitWords (seen.next c) (c :: current) (d :: rest)

/-- The runs of letters and numbers of a text. -/
def alphanumericRuns (cs : List Char) : List (List Char) :=
  cut ' ' (cs.map fun c => if isAlphanumeric c then c else ' ')

/-- The words of a text. -/
def words (cs : List Char) : List (List Char) :=
  (alphanumericRuns cs).flatMap (splitWords .none [])

/-- A word in small letters.  A sigma that ends the word takes its final form. -/
def lowerWord : List Char → List Char
  | [] => []
  | [c] => if c = 'Σ' then ['ς'] else toLower c
  | c :: rest => toLower c ++ lowerWord rest

/-- A word with a capital in front. -/
def capitalizeWord : List Char → List Char
  | [] => []
  | c :: rest => toUpper c ++ lowerWord rest

/-- A name of words that all begin with a capital. -/
def upperCamel (s : String) : String :=
  String.ofList ((words s.toList).flatMap capitalizeWord)

/-- A name of words that all but the first begin with a capital. -/
def lowerCamel (s : String) : String :=
  match words s.toList with
  | [] => ""
  | first :: rest => String.ofList (lowerWord first ++ rest.flatMap capitalizeWord)

end SchemaMock.Text
