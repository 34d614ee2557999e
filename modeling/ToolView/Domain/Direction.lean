import ToolView.Domain.Table

/-! Names in both directions. Where a name holds a letter or number that is written from right to
left, each of its labels must read the same whichever way it is laid out. -/

namespace ToolView.Domain

inductive Direction where
  | leftToRight
  | rightToLeft
  | europeanNumber
  | arabicNumber
  | nonspacing
  | neutral
  | separator
  deriving DecidableEq

def Direction.ofWord? : List Char → Option Direction
  | ['R'] => some .rightToLeft
  | ['E', 'N'] => some .europeanNumber
  | ['A', 'N'] => some .arabicNumber
  | ['N', 'S', 'M'] => some .nonspacing
  | ['N'] => some .neutral
  | ['B'] => some .separator
  | _ => none

/-- The characters outside ASCII that are not written from left to right. A mark that begins a
composed character written from left to right is not among them, so that composing a name changes
no direction. -/
def directionLines : List String :=
  ["A1-A7=N A9=N AB-AC=N AE=N B0-B1=N B6-B7=N BB=N BF=N D7=N F7=N 2B9-2BA=N 2C2-2CF=N 2D2-2D7=N",
   "2DE-2DF=N 2E5-2ED=N 2EF-2FF=N 300-33F=NSM 342=NSM 346-34E=NSM 350-36F=NSM 375=N 3F6=N",
   "483-489=NSM 58A=N 58D-58F=N 591-5BD=NSM 5BE=R 5BF=NSM 5C0=R 5C1-5C2=NSM 5C3=R 5C4-5C5=NSM",
   "5C6=R 5C7=NSM 5D0-5EA=R 5EF-5F4=R 606-607=N 608=R 609-60A=N 60B=R 60C=N 60D=R 60E-60F=N",
   "610-61A=NSM 61B=R 61D-64A=R 64B-65F=NSM 660-669=AN 66A=N 66B-66C=AN 66D-66F=R 670=NSM",
   "671-674=R 679-6D5=R 6D6-6DC=NSM 6DE=N 6DF-6E4=NSM 6E5-6E6=R 6E7-6E8=NSM 6E9=N 6EA-6ED=NSM",
   "6EE-6EF=R 6F0-6F9=EN 6FA-70D=R 710=R 711=NSM 712-72F=R 730-74A=NSM 74D-7A5=R 7A6-7B0=NSM",
   "7B1=R 7C0-7EA=R 7EB-7F3=NSM 7F4-7F5=R 7F6-7F9=N 7FA=R 7FD=NSM 7FE-815=R 816-819=NSM 81A=R",
   "81B-823=NSM 824=R 825-827=NSM 828=R 829-82D=NSM 830-83E=R 840-858=R 859-85B=NSM 85E=R",
   "860-86A=R 870-88F=R 897-89F=NSM 8A0-8C9=R 8CA-8E1=NSM 8E3-902=NSM 93A=NSM 93C=NSM 941-948=NSM",
   "94D=NSM 951-957=NSM 962-963=NSM 981=NSM 9BC=NSM 9C1-9C4=NSM 9CD=NSM 9E2-9E3=NSM 9F2-9F3=N",
   "9FB=N 9FE=NSM A01-A02=NSM A3C=NSM A41-A42=NSM A47-A48=NSM A4B-A4D=NSM A51=NSM A70-A71=NSM",
   "A75=NSM A81-A82=NSM ABC=NSM AC1-AC5=NSM AC7-AC8=NSM ACD=NSM AE2-AE3=NSM AF1=N AFA-AFF=NSM",
   "B01=NSM B3C=NSM B3F=NSM B41-B44=NSM B4D=NSM B55-B56=NSM B62-B63=NSM B82=NSM BC0=NSM BCD=NSM",
   "BF3-BFA=N C00=NSM C04=NSM C3C=NSM C3E-C40=NSM C46-C48=NSM C4A-C4D=NSM C55-C56=NSM C62-C63=NSM",
   "C78-C7E=N C81=NSM CBC=NSM CCC-CCD=NSM CE2-CE3=NSM D00-D01=NSM D3B-D3C=NSM D41-D44=NSM D4D=NSM",
   "D62-D63=NSM D81=NSM DCA=NSM DD2-DD4=NSM DD6=NSM E31=NSM E34-E3A=NSM E3F=N E47-E4E=NSM EB1=NSM",
   "EB4-EBC=NSM EC8-ECE=NSM F18-F19=NSM F35=NSM F37=NSM F39=NSM F3A-F3D=N F71-F72=NSM F74=NSM",
   "F7A-F7E=NSM F80=NSM F82-F84=NSM F86-F87=NSM F8D-F92=NSM F94-F97=NSM F99-F9C=NSM F9E-FA1=NSM",
   "FA3-FA6=NSM FA8-FAB=NSM FAD-FB8=NSM FBA-FBC=NSM FC6=NSM 102D-1030=NSM 1032-1037=NSM",
   "1039-103A=NSM 103D-103E=NSM 1058-1059=NSM 105E-1060=NSM 1071-1074=NSM 1082=NSM 1085-1086=NSM",
   "108D=NSM 109D=NSM 135D-135F=NSM 1390-1399=N 1400=N 169B-169C=N 1712-1714=NSM 1732-1733=NSM",
   "1752-1753=NSM 1772-1773=NSM 17B7-17BD=NSM 17C6=NSM 17C9-17D3=NSM 17DB=N 17DD=NSM 17F0-17F9=N",
   "1800-180A=N 1885-1886=NSM 18A9=NSM 1920-1922=NSM 1927-1928=NSM 1932=NSM 1939-193B=NSM 1940=N",
   "1944-1945=N 19DE-19FF=N 1A17-1A18=NSM 1A1B=NSM 1A56=NSM 1A58-1A5E=NSM 1A60=NSM 1A62=NSM",
   "1A65-1A6C=NSM 1A73-1A7C=NSM 1A7F=NSM 1AB0-1ADD=NSM 1AE0-1AEB=NSM 1B00-1B03=NSM 1B34=NSM",
   "1B36-1B39=NSM 1B6B-1B73=NSM 1B80-1B81=NSM 1BA2-1BA5=NSM 1BA8-1BA9=NSM 1BAB-1BAD=NSM 1BE6=NSM",
   "1BE8-1BE9=NSM 1BED=NSM 1BEF-1BF1=NSM 1C2C-1C33=NSM 1C36-1C37=NSM 1CD0-1CD2=NSM 1CD4-1CE0=NSM",
   "1CE2-1CE8=NSM 1CED=NSM 1CF4=NSM 1CF8-1CF9=NSM 1DC0-1DFF=NSM 200C-200D=N 2010=N 2012-2016=N",
   "2018-2023=N 2027=N 2030-2032=N 2035=N 2038-203B=N 203D=N 203F-2046=N 204A-2056=N 2058-205E=N",
   "20A0-20A7=N 20A9-20C1=N 20D0-20F0=NSM 2104=N 2108=N 2114=N 2117-2118=N 211E-211F=N 2123=N",
   "2125=N 2127=N 2129=N 212E=N 213A=N 2141-2144=N 214A-214D=N 218A-218B=N 2190-222B=N 222E=N",
   "2231-2328=N 232B-2335=N 237B-2394=N 2396-2429=N 2440-244A=N 24EB-26AB=N 26AD-27FF=N",
   "2900-2A0B=N 2A0D-2A73=N 2A77-2ADB=N 2ADD-2B73=N 2B76-2BFF=N 2CE5-2CEA=N 2CEF-2CF1=NSM",
   "2CF9-2CFF=N 2D7F=NSM 2DE0-2DFF=NSM 2E00-2E5D=N 2E80-2E99=N 2E9B-2E9E=N 2EA0-2EF2=N 3001=N",
   "3003-3004=N 3008-3020=N 302A-302D=NSM 3030=N 3037=N 303D-303F=N 3099-309A=NSM 30A0=N 30FB=N",
   "31C0-31E5=N 4DC0-4DFF=N A490-A4C6=N A60D-A60F=N A66F-A672=NSM A673=N A674-A67D=NSM",
   "A67E-A67F=N A69E-A69F=NSM A6F0-A6F1=NSM A700-A721=N A788=N A802=NSM A806=NSM A80B=NSM",
   "A825-A826=NSM A828-A82B=N A82C=NSM A838-A839=N A874-A877=N A8C4-A8C5=NSM A8E0-A8F1=NSM",
   "A8FF=NSM A926-A92D=NSM A947-A951=NSM A980-A982=NSM A9B3=NSM A9B6-A9B9=NSM A9BC-A9BD=NSM",
   "A9E5=NSM AA29-AA2E=NSM AA31-AA32=NSM AA35-AA36=NSM AA43=NSM AA4C=NSM AA7C=NSM AAB0=NSM",
   "AAB2-AAB4=NSM AAB7-AAB8=NSM AABE-AABF=NSM AAC1=NSM AAEC-AAED=NSM AAF6=NSM AB6A-AB6B=N",
   "ABE5=NSM ABE8=NSM ABED=NSM FB1E=NSM FBB2-FBC2=R FBC3-FBD2=N FD3E-FD4F=N FD90-FD91=N",
   "FDC8-FDCF=N FDFD-FDFF=N FE20-FE2F=NSM FE45-FE46=N FE73=R 10101=N 10140-1018C=N 10190-1019C=N",
   "101A0=N 101FD=NSM 102E0=NSM 102E1-102FB=EN 10376-1037A=NSM 10800-10805=R 10808=R",
   "1080A-10835=R 10837-10838=R 1083C=R 1083F-10855=R 10857-1089E=R 108A7-108AF=R 108E0-108F2=R",
   "108F4-108F5=R 108FB-1091B=R 1091F=N 10920-10939=R 1093F-10959=R 10980-109B7=R 109BC-109CF=R",
   "109D2-10A00=R 10A01-10A03=NSM 10A05-10A06=NSM 10A0C-10A0F=NSM 10A10-10A13=R 10A15-10A17=R",
   "10A19-10A35=R 10A38-10A3A=NSM 10A3F=NSM 10A40-10A48=R 10A50-10A58=R 10A60-10A9F=R",
   "10AC0-10AE4=R 10AE5-10AE6=NSM 10AEB-10AF6=R 10B00-10B35=R 10B39-10B3F=N 10B40-10B55=R",
   "10B58-10B72=R 10B78-10B91=R 10B99-10B9C=R 10BA9-10BAF=R 10C00-10C48=R 10CC0-10CF2=R",
   "10CFA-10D23=R 10D24-10D27=NSM 10D30-10D39=AN 10D40-10D49=AN 10D4A-10D4F=R 10D69-10D6D=NSM",
   "10D6E=N 10D6F-10D85=R 10D8E-10D8F=R 10E60-10E7E=AN 10E80-10EA9=R 10EAB-10EAC=NSM 10EAD=R",
   "10EB0-10EB1=R 10EC2-10EC7=R 10ED0-10ED8=N 10EFA-10EFF=NSM 10F00-10F27=R 10F30-10F45=R",
   "10F46-10F50=NSM 10F51-10F59=R 10F70-10F81=R 10F82-10F85=NSM 10F86-10F89=R 10FB0-10FCB=R",
   "10FE0-10FF6=R 11001=NSM 11038-11046=NSM 11052-11065=N 11070=NSM 11073-11074=NSM",
   "1107F-11081=NSM 110B3-110B6=NSM 110B9-110BA=NSM 110C2=NSM 11100-11102=NSM 11127-1112B=NSM",
   "1112D-11134=NSM 11173=NSM 11180-11181=NSM 111B6-111BE=NSM 111C9-111CC=NSM 111CF=NSM",
   "1122F-11231=NSM 11234=NSM 11236-11237=NSM 1123E=NSM 11241=NSM 112DF=NSM 112E3-112EA=NSM",
   "11300-11301=NSM 1133B-1133C=NSM 11340=NSM 11366-1136C=NSM 11370-11374=NSM 113BB-113C0=NSM",
   "113CE=NSM 113D0=NSM 113D2=NSM 113E1-113E2=NSM 11438-1143F=NSM 11442-11444=NSM 11446=NSM",
   "1145E=NSM 114B3-114B8=NSM 114BA=NSM 114BF-114C0=NSM 114C2-114C3=NSM 115B2-115B5=NSM",
   "115BC-115BD=NSM 115BF-115C0=NSM 115DC-115DD=NSM 11633-1163A=NSM 1163D=NSM 1163F-11640=NSM",
   "11660-1166C=N 116AB=NSM 116AD=NSM 116B0-116B5=NSM 116B7=NSM 1171D=NSM 1171F=NSM",
   "11722-11725=NSM 11727-1172B=NSM 1182F-11837=NSM 11839-1183A=NSM 1193B-1193C=NSM 1193E=NSM",
   "11943=NSM 119D4-119D7=NSM 119DA-119DB=NSM 119E0=NSM 11A01-11A06=NSM 11A09-11A0A=NSM",
   "11A33-11A38=NSM 11A3B-11A3E=NSM 11A47=NSM 11A51-11A56=NSM 11A59-11A5B=NSM 11A8A-11A96=NSM",
   "11A98-11A99=NSM 11B60=NSM 11B62-11B64=NSM 11B66=NSM 11C30-11C36=NSM 11C38-11C3D=NSM",
   "11C92-11CA7=NSM 11CAA-11CB0=NSM 11CB2-11CB3=NSM 11CB5-11CB6=NSM 11D31-11D36=NSM 11D3A=NSM",
   "11D3C-11D3D=NSM 11D3F-11D45=NSM 11D47=NSM 11D90-11D91=NSM 11D95=NSM 11D97=NSM 11EF3-11EF4=NSM",
   "11F00-11F01=NSM 11F36-11F3A=NSM 11F40=NSM 11F42=NSM 11F5A=NSM 11FD5-11FF1=N 13440=NSM",
   "13447-13455=NSM 1611E-16129=NSM 1612D-1612F=NSM 16AF0-16AF4=NSM 16B30-16B36=NSM 16F4F=NSM",
   "16F8F-16F92=NSM 16FE2=N 16FE4=NSM 1BC9D-1BC9E=NSM 1CC00-1CCD5=N 1CCFA-1CCFC=N 1CD00-1CEB3=N",
   "1CEBA-1CED0=N 1CEE0-1CEF0=N 1CF00-1CF2D=NSM 1CF30-1CF46=NSM 1D167-1D169=NSM 1D17B-1D182=NSM",
   "1D185-1D18B=NSM 1D1AA-1D1AD=NSM 1D1E9-1D1EA=N 1D200-1D241=N 1D242-1D244=NSM 1D245=N",
   "1D300-1D356=N 1DA00-1DA36=NSM 1DA3B-1DA6C=NSM 1DA75=NSM 1DA84=NSM 1DA9B-1DA9F=NSM",
   "1DAA1-1DAAF=NSM 1E000-1E006=NSM 1E008-1E018=NSM 1E01B-1E021=NSM 1E023-1E024=NSM",
   "1E026-1E02A=NSM 1E08F=NSM 1E130-1E136=NSM 1E2AE=NSM 1E2EC-1E2EF=NSM 1E2FF=N 1E4EC-1E4EF=NSM",
   "1E5EE-1E5EF=NSM 1E6E3=NSM 1E6E6=NSM 1E6EE-1E6EF=NSM 1E6F5=NSM 1E800-1E8C4=R 1E8C7-1E8CF=R",
   "1E8D0-1E8D6=NSM 1E922-1E943=R 1E944-1E94A=NSM 1E94B=R 1E950-1E959=R 1E95E-1E95F=R",
   "1EC71-1ECB4=R 1ED01-1ED3D=R 1EEF0-1EEF1=N 1F000-1F02B=N 1F030-1F093=N 1F0A0-1F0AE=N",
   "1F0B1-1F0BF=N 1F0C1-1F0CF=N 1F0D1-1F0F5=N 1F10B-1F10F=N 1F12F=N 1F16D-1F16F=N 1F1AD=N",
   "1F260-1F265=N 1F300-1F6D8=N 1F6DC-1F6EC=N 1F6F0-1F6FC=N 1F700-1F7D9=N 1F7E0-1F7EB=N 1F7F0=N",
   "1F800-1F80B=N 1F810-1F847=N 1F850-1F859=N 1F860-1F887=N 1F890-1F8AD=N 1F8B0-1F8BB=N",
   "1F8C0-1F8C1=N 1F8D0-1F8D8=N 1F900-1FA57=N 1FA60-1FA6D=N 1FA70-1FA7C=N 1FA80-1FA8A=N",
   "1FA8E-1FAC6=N 1FAC8=N 1FACD-1FADC=N 1FADF-1FAEA=N 1FAEF-1FAF8=N 1FB00-1FB92=N 1FB94-1FBEF=N",
   "1FBFA=N"]

def directionTable : List (Span Direction) := Span.ofLines Direction.ofWord? directionLines

def direction (c : Char) : Direction :=
  if c.toNat < 128 then
    if c.isAlpha then .leftToRight else if c.isDigit then .europeanNumber else .neutral
  else (Span.find? directionTable c).getD .leftToRight

def isRightToLeft (c : Char) : Bool :=
  direction c == .rightToLeft || direction c == .arabicNumber

/-- Whether the characters after the first of a label, the last of them first, go with it. -/
def followsFirst (first : Direction) (others : List Direction) : Bool :=
  match first, others.dropWhile (· == .nonspacing) with
  | .leftToRight, [] | .rightToLeft, [] => true
  | .leftToRight, last :: between =>
    last ∈ [.leftToRight, .europeanNumber] &&
      between.all (· ∈ [.leftToRight, .europeanNumber, .nonspacing, .neutral])
  | .rightToLeft, last :: between =>
    last ∈ [.rightToLeft, .europeanNumber, .arabicNumber] &&
      between.all
        (· ∈ [.rightToLeft, .europeanNumber, .arabicNumber, .nonspacing, .neutral]) &&
      !((last :: between).contains .europeanNumber && (last :: between).contains .arabicNumber)
  | _, _ => false

def isSteady (label : List Char) : Bool :=
  match label.map direction with
  | [] => true
  | first :: others => followsFirst first others.reverse

end ToolView.Domain
