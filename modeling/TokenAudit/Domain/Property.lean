import TokenAudit.Domain.Run

/-! # Properties of characters in names

Which characters of a name are marks, in which direction they are written, and how they join with
their neighbours. Characters that cannot stand in a name are not told apart from their neighbours in
the tables.

* `isMark` — marks, which cannot begin a name;
* `direction` — the direction of a character;
* `joining` — how a letter joins. -/

namespace TokenAudit.Domain

/-- The direction in which a character is written. -/
inductive Direction
  /-- From left to right. -/
  | left
  /-- From right to left. -/
  | right
  /-- A digit as it is used with letters of either direction. -/
  | digit
  /-- A digit as it is used with letters from right to left. -/
  | arabicDigit
  /-- A sign of no direction. -/
  | neutral
  /-- The direction of what it is put on. -/
  | mark
  deriving DecidableEq, Repr

/-- How a letter joins with the letters before and after it. -/
inductive Joining
  /-- With neither. -/
  | none
  /-- With the letter after it. -/
  | after
  /-- With the letter before it. -/
  | before
  /-- With both. -/
  | both
  /-- It is passed over. -/
  | passed
  deriving DecidableEq, Repr

/-- The marks. -/
def markTable : String := "
300-36F 483-489 591-5BD 5BF 5C1-5C2 5C4-5C5 5C7 610-61A 64B-65F 670 6D6-6DC 6DF-6E4 6E7-6E8 6EA-6ED
711 730-74A 7A6-7B0 7EB-7F3 7FD 816-819 81B-823 825-827 829-82D 859-85B 897-89F 8CA-903 93A-93C
93E-94F 951-957 962-963 981-983 9BC 9BE-9CD 9D7 9E2-9E3 9FE-A03 A3C-A51 A70-A71 A75 A81-A83 ABC
ABE-ACD AE2-AE3 AFA-B03 B3C B3E-B57 B62-B63 B82 BBE-BCD BD7 C00-C04 C3C C3E-C56 C62-C63 C81-C83 CBC
CBE-CD6 CE2-CE3 CF3-D03 D3B-D3C D3E-D4D D57 D62-D63 D81-D83 DCA-DDF DF2-DF3 E31 E34-E3A E47-E4E EB1
EB4-EBC EC8-ECE F18-F19 F35 F37 F39 F3E-F3F F71-F84 F86-F87 F8D-FBC FC6 102B-103E 1056-1059
105E-1060 1062-1064 1067-106D 1071-1074 1082-108D 108F 109A-109D 135D-135F 1712-1715 1732-1734
1752-1753 1772-1773 17B6-17D3 17DD 1885-1886 18A9 1920-193B 1A17-1A1B 1A55-1A7F 1AB0-1B04 1B34-1B44
1B6B-1B73 1B80-1B82 1BA1-1BAD 1BE6-1BF3 1C24-1C37 1CD0-1CD2 1CD4-1CE8 1CED 1CF4 1CF7-1CF9 1DC0-1DFF
20D0-20F0 2CEF-2CF1 2D7F 2DE0-2DFF 302A-302F 3099-309A A66F-A672 A674-A67D A69E-A69F A6F0-A6F1 A802
A806 A80B A823-A827 A82C A880-A881 A8B4-A8C5 A8E0-A8F1 A8FF A926-A92D A947-A953 A980-A983 A9B3-A9C0
A9E5 AA29-AA36 AA43 AA4C-AA4D AA7B-AA7D AAB0 AAB2-AAB4 AAB7-AAB8 AABE-AABF AAC1 AAEB-AAEF AAF5-AAF6
ABE3-ABEA ABEC-ABED FB1E FE20-FE2F 101FD 102E0 10376-1037A 10A01-10A0F 10A38-10A3F 10AE5-10AE6
10D24-10D27 10D69-10D6D 10EAB-10EAC 10EFA-10EFF 10F46-10F50 10F82-10F85 11000-11002 11038-11046
11070 11073-11074 1107F-11082 110B0-110BA 110C2 11100-11102 11127-11134 11145-11146 11173
11180-11182 111B3-111C0 111C9-111CC 111CE-111CF 1122C-11237 1123E 11241 112DF-112EA 11300-11303
1133B-1133C 1133E-1134D 11357 11362-11374 113B8-113D0 113D2 113E1-113E2 11435-11446 1145E
114B0-114C3 115AF-115C0 115DC-115DD 11630-11640 116AB-116B7 1171D-1172B 1182C-1183A 11930-1193E
11940 11942-11943 119D1-119E0 119E4 11A01-11A0A 11A33-11A39 11A3B-11A3E 11A47 11A51-11A5B
11A8A-11A99 11B60-11B67 11C2F-11C3F 11C92-11CB6 11D31-11D45 11D47 11D8A-11D97 11EF3-11EF6
11F00-11F01 11F03 11F34-11F42 11F5A 13440 13447-13455 1611E-1612F 16AF0-16AF4 16B30-16B36 16F4F
16F51-16F92 16FE4-16FF1 1BC9D-1BC9E 1CF00-1CF46 1D165-1D169 1D16D-1D182 1D185-1D18B 1D1AA-1D1AD
1D242-1D244 1DA00-1DA36 1DA3B-1DA6C 1DA75 1DA84 1DA9B-1DAAF 1E000-1E08F 1E130-1E136 1E2AE
1E2EC-1E2EF 1E4EC-1E4EF 1E5EE-1E5EF 1E6E3 1E6E6 1E6EE-1E6EF 1E6F5 1E8D0-1E8D6 1E944-1E94A"

/-- The directions of characters that are not written from left to right. -/
def directionTable : String := "
21-2F:S 30-39:E 3A-60:S 7B-7E:S A1-D7:S F7:S 2B9-2BA:S 2C2-2CF:S 2D2-2ED:S 2EF-2FF:S 300-36F:M 375:S
3F6:S 483-489:M 58A-58F:S 591-5BD:M 5BE:R 5BF:M 5C0:R 5C1-5C2:M 5C3:R 5C4-5C5:M 5C6:R 5C7:M
5D0-5F4:R 606-607:S 608:R 609-60A:S 60B:R 60C:S 60D:R 60E-60F:S 610-61A:M 61B-64A:R 64B-65F:M
660-669:N 66A:S 66B-66C:N 66D-66F:R 670:M 671-6D5:R 6D6-6DC:M 6DE:S 6DF-6E4:M 6E5-6E6:R 6E7-6E8:M
6E9:S 6EA-6ED:M 6EE-6EF:R 6F0-6F9:E 6FA-710:R 711:M 712-72F:R 730-74A:M 74D-7A5:R 7A6-7B0:M
7B1-7EA:R 7EB-7F3:M 7F4-7F5:R 7F6-7F9:S 7FA:R 7FD:M 7FE-815:R 816-819:M 81A:R 81B-823:M 824:R
825-827:M 828:R 829-82D:M 830-858:R 859-85B:M 85E-88F:R 897-89F:M 8A0-8C9:R 8CA-902:M 93A:M 93C:M
941-948:M 94D:M 951-957:M 962-963:M 981:M 9BC:M 9C1-9C4:M 9CD:M 9E2-9E3:M 9F2-9F3:S 9FB:S 9FE-A02:M
A3C:M A41-A51:M A70-A71:M A75:M A81-A82:M ABC:M AC1-AC8:M ACD:M AE2-AE3:M AF1:S AFA-B01:M B3C:M
B3F:M B41-B44:M B4D-B56:M B62-B63:M B82:M BC0:M BCD:M BF3-BFA:S C00:M C04:M C3C:M C3E-C40:M
C46-C56:M C62-C63:M C78-C7E:S C81:M CBC:M CCC-CCD:M CE2-CE3:M D00-D01:M D3B-D3C:M D41-D44:M D4D:M
D62-D63:M D81:M DCA:M DD2-DD6:M E31:M E34-E3A:M E3F:S E47-E4E:M EB1:M EB4-EBC:M EC8-ECE:M F18-F19:M
F35:M F37:M F39:M F3A-F3D:S F71-F7E:M F80-F84:M F86-F87:M F8D-FBC:M FC6:M 102D-1030:M 1032-1037:M
1039-103A:M 103D-103E:M 1058-1059:M 105E-1060:M 1071-1074:M 1082:M 1085-1086:M 108D:M 109D:M
135D-135F:M 1390-1399:S 1400:S 169B-169C:S 1712-1714:M 1732-1733:M 1752-1753:M 1772-1773:M
17B7-17BD:M 17C6:M 17C9-17D3:M 17DB:S 17DD:M 17F0-180A:S 1885-1886:M 18A9:M 1920-1922:M 1927-1928:M
1932:M 1939-193B:M 1940-1945:S 19DE-19FF:S 1A17-1A18:M 1A1B:M 1A56:M 1A58-1A60:M 1A62:M 1A65-1A6C:M
1A73-1A7F:M 1AB0-1B03:M 1B34:M 1B36-1B3A:M 1B3C:M 1B42:M 1B4E-1B4F:S 1B6B-1B73:M 1B7F:S 1B80-1B81:M
1BA2-1BA5:M 1BA8-1BA9:M 1BAB-1BAD:M 1BE6:M 1BE8-1BE9:M 1BED:M 1BEF-1BF1:M 1C2C-1C33:M 1C36-1C37:M
1CD0-1CD2:M 1CD4-1CE0:M 1CE2-1CE8:M 1CED:M 1CF4:M 1CF8-1CF9:M 1DC0-1DFF:M 200C-20C1:S 20D0-20F0:M
2104-214D:S 218A-2335:S 237B-2394:S 2396-26AB:S 26AD-27FF:S 2900-2BFF:S 2CE5-2CEA:S 2CEF-2CF1:M
2CF9-2CFF:S 2D7F:M 2DE0-2DFF:M 2E00-3004:S 3008-3020:S 302A-302D:M 3030:S 3037:S 303D-303F:S
3099-309A:M 30A0:S 30FB:S 31C0-31E5:S 4DC0-4DFF:S A490-A4C6:S A60D-A60F:S A66F-A672:M A673:S
A674-A67D:M A67E-A67F:S A69E-A69F:M A6F0-A6F1:M A700-A721:S A788:S A802:M A806:M A80B:M A825-A826:M
A828-A82B:S A82C:M A838-A839:S A874-A877:S A8C4-A8C5:M A8E0-A8F1:M A8FF:M A926-A92D:M A947-A951:M
A980-A982:M A9B3:M A9B6-A9B9:M A9BC-A9BD:M A9E5:M AA29-AA2E:M AA31-AA32:M AA35-AA36:M AA43:M AA4C:M
AA7C:M AAB0:M AAB2-AAB4:M AAB7-AAB8:M AABE-AABF:M AAC1:M AAEC-AAED:M AAF6:M AB6A-AB6B:S ABE5:M
ABE8:M ABED:M FB1E:M FBB2-FBD2:R FD3E-FD4F:S FD90-FDCE:R FDCF-FDFF:S FE20-FE2F:M FE45-FE46:S FE73:R
10101:S 10140-1018C:S 10190-101A0:S 101FD:M 102E0:M 102E1-102FB:E 10376-1037A:M 10800-1091B:R
1091F:S 10920-10A00:R 10A01-10A0F:M 10A10-10A35:R 10A38-10A3F:M 10A40-10AE4:R 10AE5-10AE6:M
10AEB-10B35:R 10B39-10B3F:S 10B40-10D23:R 10D24-10D27:M 10D30-10D39:N 10D40-10D4F:R 10D69-10D6D:M
10D6E-10D8F:R 10E60-10E7E:N 10E80-10EA9:R 10EAB-10EAC:M 10EAD-10ED8:R 10EFA-10EFF:M 10F00-10F45:R
10F46-10F50:M 10F51-10F81:R 10F82-10F85:M 10F86-10FF6:R 11001:M 11038-11046:M 11052-11065:S 11070:M
11073-11074:M 1107F-11081:M 110B3-110B6:M 110B9-110BA:M 110C2:M 11100-11102:M 11127-1112B:M
1112D-11134:M 11173:M 11180-11181:M 111B6-111BE:M 111C9-111CC:M 111CF:M 1122F-11231:M 11234:M
11236-11237:M 1123E:M 11241:M 112DF:M 112E3-112EA:M 11300-11301:M 1133B-1133C:M 11340:M
11366-11374:M 113BB-113C0:M 113CE:M 113D0:M 113D2:M 113E1-113E2:M 11438-1143F:M 11442-11444:M
11446:M 1145E:M 114B3-114B8:M 114BA:M 114BF-114C0:M 114C2-114C3:M 115B2-115B5:M 115BC-115BD:M
115BF-115C0:M 115DC-115DD:M 11633-1163A:M 1163D:M 1163F-11640:M 11660-1166C:S 116AB:M 116AD:M
116B0-116B5:M 116B7:M 1171D-1171F:M 11722-11725:M 11727-1172B:M 1182F-11837:M 11839-1183A:M
1193B-1193C:M 1193E:M 11943:M 119D4-119DB:M 119E0:M 11A01-11A06:M 11A09-11A0A:M 11A33-11A38:M
11A3B-11A3E:M 11A47:M 11A51-11A56:M 11A59-11A5B:M 11A8A-11A96:M 11A98-11A99:M 11B60:M 11B62-11B64:M
11B66:M 11BE1:S 11C30-11C3D:M 11C92-11CA7:M 11CAA-11CB0:M 11CB2-11CB3:M 11CB5-11CB6:M 11D31-11D45:M
11D47:M 11D90-11D91:M 11D95:M 11D97:M 11EF3-11EF4:M 11F00-11F01:M 11F36-11F3A:M 11F40:M 11F42:M
11F5A:M 11FD5-11FF1:S 13440:M 13447-13455:M 1611E-16129:M 1612D-1612F:M 16AF0-16AF4:M 16B30-16B36:M
16D6D-16D6F:S 16F4F:M 16F8F-16F92:M 16FE2:S 16FE4:M 1BC9D-1BC9E:M 1CC00-1CEF0:S 1CF00-1CF46:M
1D167-1D169:M 1D17B-1D182:M 1D185-1D18B:M 1D1AA-1D1AD:M 1D1E9-1D241:S 1D242-1D244:M 1D245:S
1D300-1D356:S 1DA00-1DA36:M 1DA3B-1DA6C:M 1DA75:M 1DA84:M 1DA9B-1DAAF:M 1E000-1E08F:M 1E130-1E136:M
1E2AE:M 1E2EC-1E2EF:M 1E2FF:S 1E4EC-1E4EF:M 1E5EE-1E5EF:M 1E5FF:S 1E6E3:M 1E6E6:M 1E6EE-1E6EF:M
1E6F5:M 1E800-1E8CF:R 1E8D0-1E8D6:M 1E922-1E943:R 1E944-1E94A:M 1E94B-1ED3D:R 1EEF0-1F12F:S
1F16D-1F16F:S 1F1AD:S 1F260-1FBFA:S"

/-- How characters join that do. -/
def joiningTable : String := "
300-36F:T 483-489:T 591-5BD:T 5BF:T 5C1-5C2:T 5C4-5C5:T 5C7:T 610-61A:T 620:D 622-625:R 626:D 627:R
628:D 629:R 62A-62E:D 62F-632:R 633-63F:D 641-647:D 648:R 649-64A:D 64B-65F:T 66E-66F:D 670:T
671-673:R 679-687:D 688-699:R 69A-6BF:D 6C0:R 6C1-6C2:D 6C3-6CB:R 6CC:D 6CD:R 6CE:D 6CF:R 6D0-6D1:D
6D2-6D3:R 6D5:R 6D6-6DC:T 6DF-6E4:T 6E7-6E8:T 6EA-6ED:T 6EE-6EF:R 6FA-6FC:D 6FF:D 710:R 711:T
712-714:D 715-719:R 71A-71D:D 71E:R 71F-727:D 728:R 729:D 72A:R 72B:D 72C:R 72D-72E:D 72F:R
730-74A:T 74D:R 74E-758:D 759-75B:R 75C-76A:D 76B-76C:R 76D-770:D 771:R 772:D 773-774:R 775-777:D
778-779:R 77A-77F:D 7A6-7B0:T 7CA-7EA:D 7EB-7F3:T 7FD:T 816-819:T 81B-823:T 825-827:T 829-82D:T
840:R 841-845:D 846-847:R 848:D 849:R 84A-853:D 854:R 855:D 856-858:R 859-85B:T 860:D 862-865:D
867:R 868:D 869-882:R 886:D 889-88D:D 88E:R 88F:D 897-89F:T 8A0-8A9:D 8AA-8AC:R 8AE:R 8AF-8B0:D
8B1-8B2:R 8B3-8B8:D 8B9:R 8BA-8C8:D 8CA-902:T 93A:T 93C:T 941-948:T 94D:T 951-957:T 962-963:T 981:T
9BC:T 9C1-9C4:T 9CD:T 9E2-9E3:T 9FE-A02:T A3C:T A41-A51:T A70-A71:T A75:T A81-A82:T ABC:T AC1-AC8:T
ACD:T AE2-AE3:T AFA-B01:T B3C:T B3F:T B41-B44:T B4D-B56:T B62-B63:T B82:T BC0:T BCD:T C00:T C04:T
C3C:T C3E-C40:T C46-C56:T C62-C63:T C81:T CBC:T CBF:T CC6:T CCC-CCD:T CE2-CE3:T D00-D01:T D3B-D3C:T
D41-D44:T D4D:T D62-D63:T D81:T DCA:T DD2-DD6:T E31:T E34-E3A:T E47-E4E:T EB1:T EB4-EBC:T EC8-ECE:T
F18-F19:T F35:T F37:T F39:T F71-F7E:T F80-F84:T F86-F87:T F8D-FBC:T FC6:T 102D-1030:T 1032-1037:T
1039-103A:T 103D-103E:T 1058-1059:T 105E-1060:T 1071-1074:T 1082:T 1085-1086:T 108D:T 109D:T
135D-135F:T 1712-1714:T 1732-1733:T 1752-1753:T 1772-1773:T 17B7-17BD:T 17C6:T 17C9-17D3:T 17DD:T
1807:D 1820-1878:D 1885-1886:T 1887-18A8:D 18A9:T 18AA:D 1920-1922:T 1927-1928:T 1932:T 1939-193B:T
1A17-1A18:T 1A1B:T 1A56:T 1A58-1A60:T 1A62:T 1A65-1A6C:T 1A73-1A7F:T 1AB0-1B03:T 1B34:T 1B36-1B3A:T
1B3C:T 1B42:T 1B6B-1B73:T 1B80-1B81:T 1BA2-1BA5:T 1BA8-1BA9:T 1BAB-1BAD:T 1BE6:T 1BE8-1BE9:T 1BED:T
1BEF-1BF1:T 1C2C-1C33:T 1C36-1C37:T 1CD0-1CD2:T 1CD4-1CE0:T 1CE2-1CE8:T 1CED:T 1CF4:T 1CF8-1CF9:T
1DC0-1DFF:T 20D0-20F0:T 2CEF-2CF1:T 2D7F:T 2DE0-2DFF:T 302A-302D:T 3099-309A:T A66F-A672:T
A674-A67D:T A69E-A69F:T A6F0-A6F1:T A802:T A806:T A80B:T A825-A826:T A82C:T A840-A871:D A872:L
A8C4-A8C5:T A8E0-A8F1:T A8FF:T A926-A92D:T A947-A951:T A980-A982:T A9B3:T A9B6-A9B9:T A9BC-A9BD:T
A9E5:T AA29-AA2E:T AA31-AA32:T AA35-AA36:T AA43:T AA4C:T AA7C:T AAB0:T AAB2-AAB4:T AAB7-AAB8:T
AABE-AABF:T AAC1:T AAEC-AAED:T AAF6:T ABE5:T ABE8:T ABED:T FB1E:T FE20-FE2F:T 101FD:T 102E0:T
10376-1037A:T 10A01-10A0F:T 10A38-10A3F:T 10AC0-10AC4:D 10AC5:R 10AC7:R 10AC9-10ACA:R 10ACD:L
10ACE-10AD2:R 10AD3-10AD6:D 10AD7:L 10AD8-10ADC:D 10ADD:R 10ADE-10AE0:D 10AE1:R 10AE4:R
10AE5-10AE6:T 10AEB-10AEE:D 10AEF:R 10B80:D 10B81:R 10B82:D 10B83-10B85:R 10B86-10B88:D 10B89:R
10B8A-10B8B:D 10B8C:R 10B8D:D 10B8E-10B8F:R 10B90:D 10B91:R 10BA9-10BAC:R 10BAD-10BAE:D 10D00:L
10D01-10D21:D 10D22:R 10D23:D 10D24-10D27:T 10D69-10D6D:T 10EAB-10EAC:T 10EC2:R 10EC3-10EC4:D
10EC6-10EC7:D 10EFA-10EFF:T 10F30-10F32:D 10F33:R 10F34-10F44:D 10F46-10F50:T 10F51-10F53:D 10F54:R
10F70-10F73:D 10F74-10F75:R 10F76-10F81:D 10F82-10F85:T 10FB0:D 10FB2-10FB3:D 10FB4-10FB6:R 10FB8:D
10FB9-10FBA:R 10FBB-10FBC:D 10FBD:R 10FBE-10FBF:D 10FC1:D 10FC2-10FC3:R 10FC4:D 10FC9:R 10FCA:D
10FCB:L 11001:T 11038-11046:T 11070:T 11073-11074:T 1107F-11081:T 110B3-110B6:T 110B9-110BA:T
110C2:T 11100-11102:T 11127-1112B:T 1112D-11134:T 11173:T 11180-11181:T 111B6-111BE:T 111C9-111CC:T
111CF:T 1122F-11231:T 11234:T 11236-11237:T 1123E:T 11241:T 112DF:T 112E3-112EA:T 11300-11301:T
1133B-1133C:T 11340:T 11366-11374:T 113BB-113C0:T 113CE:T 113D0:T 113D2:T 113E1-113E2:T
11438-1143F:T 11442-11444:T 11446:T 1145E:T 114B3-114B8:T 114BA:T 114BF-114C0:T 114C2-114C3:T
115B2-115B5:T 115BC-115BD:T 115BF-115C0:T 115DC-115DD:T 11633-1163A:T 1163D:T 1163F-11640:T 116AB:T
116AD:T 116B0-116B5:T 116B7:T 1171D:T 1171F:T 11722-11725:T 11727-1172B:T 1182F-11837:T
11839-1183A:T 1193B-1193C:T 1193E:T 11943:T 119D4-119DB:T 119E0:T 11A01-11A0A:T 11A33-11A38:T
11A3B-11A3E:T 11A47:T 11A51-11A56:T 11A59-11A5B:T 11A8A-11A96:T 11A98-11A99:T 11B60:T 11B62-11B64:T
11B66:T 11C30-11C3D:T 11C3F:T 11C92-11CA7:T 11CAA-11CB0:T 11CB2-11CB3:T 11CB5-11CB6:T 11D31-11D45:T
11D47:T 11D90-11D91:T 11D95:T 11D97:T 11EF3-11EF4:T 11F00-11F01:T 11F36-11F3A:T 11F40:T 11F42:T
11F5A:T 13440:T 13447-13455:T 1611E-16129:T 1612D-1612F:T 16AF0-16AF4:T 16B30-16B36:T 16F4F:T
16F8F-16F92:T 16FE4:T 1BC9D-1BC9E:T 1CF00-1CF46:T 1D167-1D169:T 1D17B-1D182:T 1D185-1D18B:T
1D1AA-1D1AD:T 1D242-1D244:T 1DA00-1DA36:T 1DA3B-1DA6C:T 1DA75:T 1DA84:T 1DA9B-1DAAF:T 1E000-1E08F:T
1E130-1E136:T 1E2AE:T 1E2EC-1E2EF:T 1E4EC-1E4EF:T 1E5EE-1E5EF:T 1E6E3:T 1E6E6:T 1E6EE-1E6EF:T
1E6F5:T 1E8D0-1E8D6:T 1E922-1E943:D 1E944-1E94B:T"

/-- The runs of marks. -/
def markRuns : List Run := Run.table markTable

/-- The runs of characters by their directions. -/
def directionRuns : List Run := Run.table directionTable

/-- The runs of characters by how they join. -/
def joiningRuns : List Run := Run.table joiningTable

/-- Whether a character is a mark. -/
def isMark (c : Char) : Bool := (Run.find? c markRuns).isSome

/-- The direction of a character. -/
def direction (c : Char) : Direction :=
  match Run.valueOf? c directionRuns with
  | some "R" => .right
  | some "E" => .digit
  | some "N" => .arabicDigit
  | some "S" => .neutral
  | some "M" => .mark
  | _ => .left

/-- How a character joins. -/
def joining (c : Char) : Joining :=
  match Run.valueOf? c joiningRuns with
  | some "L" => .after
  | some "R" => .before
  | some "D" => .both
  | some "T" => .passed
  | _ => .none

end TokenAudit.Domain
