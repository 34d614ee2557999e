import ToolView.Domain.Table

/-! Marks: the characters that combine with the one before them. The class of a mark says where on
that character it stands; marks of class zero have a place of their own. -/

namespace ToolView.Domain

def markLines : List String :=
  ["300-314=230 315=232 316-319=220 31A=232 31B=216 31C-320=220 321-322=202 323-326=220",
   "327-328=202 329-333=220 334-338=1 339-33C=220 33D-33F=230 342=230 346=230 347-349=220",
   "34A-34C=230 34D-34E=220 350-352=230 353-356=220 357=230 358=232 359-35A=220 35B=230 35C=233",
   "35D-35E=234 35F=233 360-361=234 362=233 363-36F=230 483-487=230 488-489=0 591=220 592-595=230",
   "596=220 597-599=230 59A=222 59B=220 59C-5A1=230 5A2-5A7=220 5A8-5A9=230 5AA=220 5AB-5AC=230",
   "5AD=222 5AE=228 5AF=230 5B0=10 5B1=11 5B2=12 5B3=13 5B4=14 5B5=15 5B6=16 5B7=17 5B8=18",
   "5B9-5BA=19 5BB=20 5BC=21 5BD=22 5BF=23 5C1=24 5C2=25 5C4=230 5C5=220 5C7=18 610-617=230",
   "618=30 619=31 61A=32 64B=27 64C=28 64D=29 64E=30 64F=31 650=32 651=33 652=34 653-654=230",
   "655-656=220 657-65B=230 65C=220 65D-65E=230 65F=220 670=35 6D6-6DC=230 6DF-6E2=230 6E3=220",
   "6E4=230 6E7-6E8=230 6EA=220 6EB-6EC=230 6ED=220 711=36 730=230 731=220 732-733=230 734=220",
   "735-736=230 737-739=220 73A=230 73B-73C=220 73D=230 73E=220 73F-741=230 742=220 743=230",
   "744=220 745=230 746=220 747=230 748=220 749-74A=230 7A6-7B0=0 7EB-7F1=230 7F2=220 7F3=230",
   "7FD=220 816-819=230 81B-823=230 825-827=230 829-82D=230 859-85B=220 897-898=230 899-89B=220",
   "89C-89F=230 8CA-8CE=230 8CF-8D3=220 8D4-8E1=230 8E3=220 8E4-8E5=230 8E6=220 8E7-8E8=230",
   "8E9=220 8EA-8EC=230 8ED-8EF=220 8F0=27 8F1=28 8F2=29 8F3-8F5=230 8F6=220 8F7-8F8=230",
   "8F9-8FA=220 8FB-8FF=230 900-903=0 93A-93B=0 93C=7 93E-94C=0 94D=9 94E-94F=0 951=230 952=220",
   "953-954=230 955-957=0 962-963=0 981-983=0 9BC=7 9BE-9C4=0 9C7-9C8=0 9CB-9CC=0 9CD=9 9D7=0",
   "9E2-9E3=0 9FE=230 A01-A03=0 A3C=7 A3E-A42=0 A47-A48=0 A4B-A4C=0 A4D=9 A51=0 A70-A71=0 A75=0",
   "A81-A83=0 ABC=7 ABE-AC5=0 AC7-AC9=0 ACB-ACC=0 ACD=9 AE2-AE3=0 AFA-AFF=0 B01-B03=0 B3C=7",
   "B3E-B44=0 B47-B48=0 B4B-B4C=0 B4D=9 B55-B57=0 B62-B63=0 B82=0 BBE-BC2=0 BC6-BC8=0 BCA-BCC=0",
   "BCD=9 BD7=0 C00-C04=0 C3C=7 C3E-C44=0 C46-C48=0 C4A-C4C=0 C4D=9 C55=84 C56=91 C62-C63=0",
   "C81-C83=0 CBC=7 CBE-CC4=0 CC6-CC8=0 CCA-CCC=0 CCD=9 CD5-CD6=0 CE2-CE3=0 CF3=0 D00-D03=0",
   "D3B-D3C=9 D3E-D44=0 D46-D48=0 D4A-D4C=0 D4D=9 D57=0 D62-D63=0 D81-D83=0 DCA=9 DCF-DD4=0 DD6=0",
   "DD8-DDF=0 DF2-DF3=0 E31=0 E34-E37=0 E38-E39=103 E3A=9 E47=0 E48-E4B=107 E4C-E4E=0 EB1=0",
   "EB4-EB7=0 EB8-EB9=118 EBA=9 EBB-EBC=0 EC8-ECB=122 ECC-ECE=0 F18-F19=220 F35=220 F37=220",
   "F39=216 F3E-F3F=0 F71=129 F72=130 F74=132 F7A-F7D=130 F7E-F7F=0 F80=130 F82-F83=230 F84=9",
   "F86-F87=230 F8D-F92=0 F94-F97=0 F99-F9C=0 F9E-FA1=0 FA3-FA6=0 FA8-FAB=0 FAD-FB8=0 FBA-FBC=0",
   "FC6=220 102B-1036=0 1037=7 1038=0 1039-103A=9 103B-103E=0 1056-1059=0 105E-1060=0 1062-1064=0",
   "1067-106D=0 1071-1074=0 1082-108C=0 108D=220 108F=0 109A-109D=0 135D-135F=230 1712-1713=0",
   "1714-1715=9 1732-1733=0 1734=9 1752-1753=0 1772-1773=0 17B6-17D1=0 17D2=9 17D3=0 17DD=230",
   "1885-1886=0 18A9=228 1920-192B=0 1930-1938=0 1939=222 193A=230 193B=220 1A17=230 1A18=220",
   "1A19-1A1B=0 1A55-1A5E=0 1A60=9 1A61-1A74=0 1A75-1A7C=230 1A7F=220 1AB0-1AB4=230 1AB5-1ABA=220",
   "1ABB-1ABC=230 1ABD=220 1ABE=0 1ABF-1AC0=220 1AC1-1AC2=230 1AC3-1AC4=220 1AC5-1AC9=230",
   "1ACA=220 1ACB-1ADC=230 1ADD=220 1AE0-1AE5=230 1AE6=220 1AE7-1AEA=230 1AEB=234 1B00-1B04=0",
   "1B34=7 1B35-1B43=0 1B44=9 1B6B=230 1B6C=220 1B6D-1B73=230 1B80-1B82=0 1BA1-1BA9=0 1BAA-1BAB=9",
   "1BAC-1BAD=0 1BE6=7 1BE7-1BF1=0 1BF2-1BF3=9 1C24-1C36=0 1C37=7 1CD0-1CD2=230 1CD4=1",
   "1CD5-1CD9=220 1CDA-1CDB=230 1CDC-1CDF=220 1CE0=230 1CE1=0 1CE2-1CE8=1 1CED=220 1CF4=230",
   "1CF7=0 1CF8-1CF9=230 1DC0-1DC1=230 1DC2=220 1DC3-1DC9=230 1DCA=220 1DCB-1DCC=230 1DCD=234",
   "1DCE=214 1DCF=220 1DD0=202 1DD1-1DF5=230 1DF6=232 1DF7-1DF8=228 1DF9=220 1DFA=218 1DFB=230",
   "1DFC=233 1DFD=220 1DFE=230 1DFF=220 20D0-20D1=230 20D2-20D3=1 20D4-20D7=230 20D8-20DA=1",
   "20DB-20DC=230 20DD-20E0=0 20E1=230 20E2-20E4=0 20E5-20E6=1 20E7=230 20E8=220 20E9=230",
   "20EA-20EB=1 20EC-20EF=220 20F0=230 2CEF-2CF1=230 2D7F=9 2DE0-2DFF=230 302A=218 302B=228",
   "302C=232 302D=222 302E-302F=224 3099-309A=8 A66F=230 A670-A672=0 A674-A67D=230 A69E-A69F=230",
   "A6F0-A6F1=230 A802=0 A806=9 A80B=0 A823-A827=0 A82C=9 A880-A881=0 A8B4-A8C3=0 A8C4=9 A8C5=0",
   "A8E0-A8F1=230 A8FF=0 A926-A92A=0 A92B-A92D=220 A947-A952=0 A953=9 A980-A983=0 A9B3=7",
   "A9B4-A9BF=0 A9C0=9 A9E5=0 AA29-AA36=0 AA43=0 AA4C-AA4D=0 AA7B-AA7D=0 AAB0=230 AAB2-AAB3=230",
   "AAB4=220 AAB7-AAB8=230 AABE-AABF=230 AAC1=230 AAEB-AAEF=0 AAF5=0 AAF6=9 ABE3-ABEA=0 ABEC=0",
   "ABED=9 FB1E=26 FE20-FE26=230 FE27-FE2D=220 FE2E-FE2F=230 101FD=220 102E0=220 10376-1037A=230",
   "10A01-10A03=0 10A05-10A06=0 10A0C=0 10A0D=220 10A0E=0 10A0F=230 10A38=230 10A39=1 10A3A=220",
   "10A3F=9 10AE5=230 10AE6=220 10D24-10D27=230 10D69-10D6D=230 10EAB-10EAC=230 10EFA-10EFB=220",
   "10EFC=0 10EFD-10EFF=220 10F46-10F47=220 10F48-10F4A=230 10F4B=220 10F4C=230 10F4D-10F50=220",
   "10F82=230 10F83=220 10F84=230 10F85=220 11000-11002=0 11038-11045=0 11046=9 11070=9",
   "11073-11074=0 1107F=9 11080-11082=0 110B0-110B8=0 110B9=9 110BA=7 110C2=0 11100-11102=230",
   "11127-11132=0 11133-11134=9 11145-11146=0 11173=7 11180-11182=0 111B3-111BF=0 111C0=9 111C9=0",
   "111CA=7 111CB-111CC=0 111CE-111CF=0 1122C-11234=0 11235=9 11236=7 11237=0 1123E=0 11241=0",
   "112DF-112E8=0 112E9=7 112EA=9 11300-11303=0 1133B-1133C=7 1133E-11344=0 11347-11348=0",
   "1134B-1134C=0 1134D=9 11357=0 11362-11363=0 11366-1136C=230 11370-11374=230 113B8-113C0=0",
   "113C2=0 113C5=0 113C7-113CA=0 113CC-113CD=0 113CE-113D0=9 113D2=0 113E1-113E2=0 11435-11441=0",
   "11442=9 11443-11445=0 11446=7 1145E=230 114B0-114C1=0 114C2=9 114C3=7 115AF-115B5=0",
   "115B8-115BE=0 115BF=9 115C0=7 115DC-115DD=0 11630-1163E=0 1163F=9 11640=0 116AB-116B5=0",
   "116B6=9 116B7=7 1171D-1172A=0 1172B=9 1182C-11838=0 11839=9 1183A=7 11930-11935=0",
   "11937-11938=0 1193B-1193C=0 1193D-1193E=9 11940=0 11942=0 11943=7 119D1-119D7=0 119DA-119DF=0",
   "119E0=9 119E4=0 11A01-11A0A=0 11A33=0 11A34=9 11A35-11A39=0 11A3B-11A3E=0 11A47=9",
   "11A51-11A5B=0 11A8A-11A98=0 11A99=9 11B60-11B67=0 11C2F-11C36=0 11C38-11C3E=0 11C3F=9",
   "11C92-11CA7=0 11CA9-11CB6=0 11D31-11D36=0 11D3A=0 11D3C-11D3D=0 11D3F-11D41=0 11D42=7 11D43=0",
   "11D44-11D45=9 11D47=0 11D8A-11D8E=0 11D90-11D91=0 11D93-11D96=0 11D97=9 11EF3-11EF6=0",
   "11F00-11F01=0 11F03=0 11F34-11F3A=0 11F3E-11F40=0 11F41-11F42=9 11F5A=0 13440=0 13447-13455=0",
   "1611E-1612E=0 1612F=9 16AF0-16AF4=1 16B30-16B36=230 16F4F=0 16F51-16F87=0 16F8F-16F92=0",
   "16FE4=0 16FF0-16FF1=6 1BC9D=0 1BC9E=1 1CF00-1CF2D=0 1CF30-1CF46=0 1D165-1D166=216",
   "1D167-1D169=1 1D16D=226 1D16E-1D172=216 1D17B-1D182=220 1D185-1D189=230 1D18A-1D18B=220",
   "1D1AA-1D1AD=230 1D242-1D244=230 1DA00-1DA36=0 1DA3B-1DA6C=0 1DA75=0 1DA84=0 1DA9B-1DA9F=0",
   "1DAA1-1DAAF=0 1E000-1E006=230 1E008-1E018=230 1E01B-1E021=230 1E023-1E024=230 1E026-1E02A=230",
   "1E08F=230 1E130-1E136=230 1E2AE=230 1E2EC-1E2EF=230 1E4EC-1E4ED=232 1E4EE=220 1E4EF=230",
   "1E5EE=230 1E5EF=220 1E6E3=230 1E6E6=230 1E6EE-1E6EF=230 1E6F5=230 1E8D0-1E8D6=220",
   "1E944-1E949=230 1E94A=7"]

def markTable : List (Span Nat) := Span.ofLines (Text.naturalIn? 10) markLines

def markClass? (c : Char) : Option Nat :=
  if c.toNat < 128 then none else Span.find? markTable c

/-- The class of a character; one that is no mark counts as a mark with a place of its own. -/
def combiningClass (c : Char) : Nat := (markClass? c).getD 0

def isVirama (c : Char) : Bool := markClass? c == some 9

end ToolView.Domain
