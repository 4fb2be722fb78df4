import ChatCommands.Text.RunTable

set_option autoImplicit false

/-!
# Direction of labels

Letters run to the right or to the left. A domain name with characters that run to the left is only
well formed when the direction of each of its labels is plain: it begins with a letter, ends with a
letter or a number, and holds nothing that runs the other way.
-/

namespace ChatCommands.Url

/-- How a character runs in a line of text. -/
inductive Direction where
  | rightwards
  | leftwards
  | arabicLetter
  | arabicNumber
  | number
  | numberSeparator
  | numberTerminator
  | commonSeparator
  | mark
  | boundary
  | neutral
  deriving Repr, DecidableEq

/-- The direction that a word of the table names, by the letters in general use. -/
def Direction.ofWord (s : List Char) : Direction :=
  match String.ofList s with
  | "R" => .leftwards
  | "AL" => .arabicLetter
  | "AN" => .arabicNumber
  | "EN" => .number
  | "ES" => .numberSeparator
  | "ET" => .numberTerminator
  | "CS" => .commonSeparator
  | "NSM" => .mark
  | "BN" => .boundary
  | "ON" => .neutral
  | _ => .rightwards

/-- The characters of domain names that are no letters running to the right. -/
def directions : Text.RunTable Direction :=
  Text.RunTable.ofRows Direction.ofWord [
    "21-22=ON 23-25=ET 26-2A=ON 2B=ES 2C=CS 2D=ES 2E-2F=CS 30-39=EN 3A=CS 3B-40=ON 5B-60=ON",
    "7B-7E=ON A1=ON A2-A5=ET A6-AE=ON B0-B1=ET B6-D7=ON F7=ON 2B9-2BA=ON 2C2-2CF=ON 2D2-2ED=ON",
    "2EF-2FF=ON 300-36F=NSM 375=ON 3F6=ON 483-489=NSM 58A-58E=ON 58F=ET 591-5BD=NSM 5BE=R 5BF=NSM",
    "5C0=R 5C1-5C2=NSM 5C3=R 5C4-5C5=NSM 5C6=R 5C7=NSM 5D0-5F4=R 606-607=ON 608=AL 609-60A=ET",
    "60B=AL 60C=CS 60D=AL 60E-60F=ON 610-61A=NSM 61B-64A=AL 64B-65F=NSM 660-669=AN 66A=ET",
    "66B-66C=AN 66D-66F=AL 670=NSM 671-6D5=AL 6D6-6DC=NSM 6DE=ON 6DF-6E4=NSM 6E5-6E6=AL",
    "6E7-6E8=NSM 6E9=ON 6EA-6ED=NSM 6EE-6EF=AL 6F0-6F9=EN 6FA-710=AL 711=NSM 712-72F=AL",
    "730-74A=NSM 74D-7A5=AL 7A6-7B0=NSM 7B1=AL 7C0-7EA=R 7EB-7F3=NSM 7F4-7F5=R 7F6-7F9=ON 7FA=R",
    "7FD=NSM 7FE-815=R 816-819=NSM 81A=R 81B-823=NSM 824=R 825-827=NSM 828=R 829-82D=NSM 830-858=R",
    "859-85B=NSM 85E=R 860-88F=AL 897-89F=NSM 8A0-8C9=AL 8CA-902=NSM 93A=NSM 93C=NSM 941-948=NSM",
    "94D=NSM 951-957=NSM 962-963=NSM 981=NSM 9BC=NSM 9C1-9C4=NSM 9CD=NSM 9E2-9E3=NSM 9F2-9F3=ET",
    "9FB=ET 9FE-A02=NSM A3C=NSM A41-A51=NSM A70-A71=NSM A75=NSM A81-A82=NSM ABC=NSM AC1-AC8=NSM",
    "ACD=NSM AE2-AE3=NSM AF1=ET AFA-B01=NSM B3C=NSM B3F=NSM B41-B44=NSM B4D-B56=NSM B62-B63=NSM",
    "B82=NSM BC0=NSM BCD=NSM BF3-BF8=ON BF9=ET BFA=ON C00=NSM C04=NSM C3C=NSM C3E-C40=NSM",
    "C46-C56=NSM C62-C63=NSM C78-C7E=ON C81=NSM CBC=NSM CCC-CCD=NSM CE2-CE3=NSM D00-D01=NSM",
    "D3B-D3C=NSM D41-D44=NSM D4D=NSM D62-D63=NSM D81=NSM DCA=NSM DD2-DD6=NSM E31=NSM E34-E3A=NSM",
    "E3F=ET E47-E4E=NSM EB1=NSM EB4-EBC=NSM EC8-ECE=NSM F18-F19=NSM F35=NSM F37=NSM F39=NSM",
    "F3A-F3D=ON F71-F7E=NSM F80-F84=NSM F86-F87=NSM F8D-FBC=NSM FC6=NSM 102D-1030=NSM",
    "1032-1037=NSM 1039-103A=NSM 103D-103E=NSM 1058-1059=NSM 105E-1060=NSM 1071-1074=NSM 1082=NSM",
    "1085-1086=NSM 108D=NSM 109D=NSM 135D-135F=NSM 1390-1399=ON 1400=ON 169B-169C=ON 1712-1714=NSM",
    "1732-1733=NSM 1752-1753=NSM 1772-1773=NSM 17B7-17BD=NSM 17C6=NSM 17C9-17D3=NSM 17DB=ET",
    "17DD=NSM 17F0-180A=ON 1885-1886=NSM 18A9=NSM 1920-1922=NSM 1927-1928=NSM 1932=NSM",
    "1939-193B=NSM 1940-1945=ON 19DE-19FF=ON 1A17-1A18=NSM 1A1B=NSM 1A56=NSM 1A58-1A60=NSM",
    "1A62=NSM 1A65-1A6C=NSM 1A73-1A7F=NSM 1AB0-1B03=NSM 1B34=NSM 1B36-1B3A=NSM 1B3C=NSM 1B42=NSM",
    "1B6B-1B73=NSM 1B80-1B81=NSM 1BA2-1BA5=NSM 1BA8-1BA9=NSM 1BAB-1BAD=NSM 1BE6=NSM 1BE8-1BE9=NSM",
    "1BED=NSM 1BEF-1BF1=NSM 1C2C-1C33=NSM 1C36-1C37=NSM 1CD0-1CD2=NSM 1CD4-1CE0=NSM 1CE2-1CE8=NSM",
    "1CED=NSM 1CF4=NSM 1CF8-1CF9=NSM 1DC0-1DFF=NSM 200C-200D=BN 2010-2027=ON 2030-2032=ET",
    "2035-2043=ON 2044=CS 2045-205E=ON 20A0-20C1=ET 20D0-20F0=NSM 2104-2129=ON 212E=ET",
    "213A-214D=ON 218A-2211=ON 2212=ES 2213=ET 2214-2335=ON 237B-2394=ON 2396-26AB=ON 26AD-27FF=ON",
    "2900-2BFF=ON 2CE5-2CEA=ON 2CEF-2CF1=NSM 2CF9-2CFF=ON 2D7F=NSM 2DE0-2DFF=NSM 2E00-3004=ON",
    "3008-3020=ON 302A-302D=NSM 3030=ON 3037=ON 303D-303F=ON 3099-309A=NSM 30A0=ON 30FB=ON",
    "31C0-31E5=ON 4DC0-4DFF=ON A490-A4C6=ON A60D-A60F=ON A66F-A672=NSM A673=ON A674-A67D=NSM",
    "A67E-A67F=ON A69E-A69F=NSM A6F0-A6F1=NSM A700-A721=ON A788=ON A802=NSM A806=NSM A80B=NSM",
    "A825-A826=NSM A828-A82B=ON A82C=NSM A838-A839=ET A874-A877=ON A8C4-A8C5=NSM A8E0-A8F1=NSM",
    "A8FF=NSM A926-A92D=NSM A947-A951=NSM A980-A982=NSM A9B3=NSM A9B6-A9B9=NSM A9BC-A9BD=NSM",
    "A9E5=NSM AA29-AA2E=NSM AA31-AA32=NSM AA35-AA36=NSM AA43=NSM AA4C=NSM AA7C=NSM AAB0=NSM",
    "AAB2-AAB4=NSM AAB7-AAB8=NSM AABE-AABF=NSM AAC1=NSM AAEC-AAED=NSM AAF6=NSM AB6A-AB6B=ON",
    "ABE5=NSM ABE8=NSM ABED=NSM FB1E=NSM FBB2-FBC2=AL FBC3-FDFF=ON FE20-FE2F=NSM FE45-FE46=ON",
    "FE73=AL 10101=ON 10140-1018C=ON 10190-101A0=ON 101FD=NSM 102E0=NSM 102E1-102FB=EN",
    "10376-1037A=NSM 10800-1091B=R 1091F=ON 10920-10A00=R 10A01-10A0F=NSM 10A10-10A35=R",
    "10A38-10A3F=NSM 10A40-10AE4=R 10AE5-10AE6=NSM 10AEB-10B35=R 10B39-10B3F=ON 10B40-10CFF=R",
    "10D00-10D23=AL 10D24-10D27=NSM 10D30-10D49=AN 10D4A-10D4F=R 10D69-10D6D=NSM 10D6E=ON",
    "10D6F-10D8F=R 10E60-10E7E=AN 10E80-10EA9=R 10EAB-10EAC=NSM 10EAD-10EB1=R 10EC2-10EC7=AL",
    "10ED0-10ED8=ON 10EFA-10EFF=NSM 10F00-10F27=R 10F30-10F45=AL 10F46-10F50=NSM 10F51-10F59=AL",
    "10F70-10F81=R 10F82-10F85=NSM 10F86-10FF6=R 11001=NSM 11038-11046=NSM 11052-11065=ON",
    "11070=NSM 11073-11074=NSM 1107F-11081=NSM 110B3-110B6=NSM 110B9-110BA=NSM 110C2=NSM",
    "11100-11102=NSM 11127-1112B=NSM 1112D-11134=NSM 11173=NSM 11180-11181=NSM 111B6-111BE=NSM",
    "111C9-111CC=NSM 111CF=NSM 1122F-11231=NSM 11234=NSM 11236-11237=NSM 1123E=NSM 11241=NSM",
    "112DF=NSM 112E3-112EA=NSM 11300-11301=NSM 1133B-1133C=NSM 11340=NSM 11366-11374=NSM",
    "113BB-113C0=NSM 113CE=NSM 113D0=NSM 113D2=NSM 113E1-113E2=NSM 11438-1143F=NSM 11442-11444=NSM",
    "11446=NSM 1145E=NSM 114B3-114B8=NSM 114BA=NSM 114BF-114C0=NSM 114C2-114C3=NSM 115B2-115B5=NSM",
    "115BC-115BD=NSM 115BF-115C0=NSM 115DC-115DD=NSM 11633-1163A=NSM 1163D=NSM 1163F-11640=NSM",
    "11660-1166C=ON 116AB=NSM 116AD=NSM 116B0-116B5=NSM 116B7=NSM 1171D=NSM 1171F=NSM",
    "11722-11725=NSM 11727-1172B=NSM 1182F-11837=NSM 11839-1183A=NSM 1193B-1193C=NSM 1193E=NSM",
    "11943=NSM 119D4-119DB=NSM 119E0=NSM 11A01-11A06=NSM 11A09-11A0A=NSM 11A33-11A38=NSM",
    "11A3B-11A3E=NSM 11A47=NSM 11A51-11A56=NSM 11A59-11A5B=NSM 11A8A-11A96=NSM 11A98-11A99=NSM",
    "11B60=NSM 11B62-11B64=NSM 11B66=NSM 11C30-11C3D=NSM 11C92-11CA7=NSM 11CAA-11CB0=NSM",
    "11CB2-11CB3=NSM 11CB5-11CB6=NSM 11D31-11D45=NSM 11D47=NSM 11D90-11D91=NSM 11D95=NSM 11D97=NSM",
    "11EF3-11EF4=NSM 11F00-11F01=NSM 11F36-11F3A=NSM 11F40=NSM 11F42=NSM 11F5A=NSM 11FD5-11FDC=ON",
    "11FDD-11FE0=ET 11FE1-11FF1=ON 13440=NSM 13447-13455=NSM 1611E-16129=NSM 1612D-1612F=NSM",
    "16AF0-16AF4=NSM 16B30-16B36=NSM 16F4F=NSM 16F8F-16F92=NSM 16FE2=ON 16FE4=NSM 1BC9D-1BC9E=NSM",
    "1CC00-1CEF0=ON 1CF00-1CF46=NSM 1D167-1D169=NSM 1D17B-1D182=NSM 1D185-1D18B=NSM",
    "1D1AA-1D1AD=NSM 1D1E9-1D241=ON 1D242-1D244=NSM 1D245=ON 1D300-1D356=ON 1DA00-1DA36=NSM",
    "1DA3B-1DA6C=NSM 1DA75=NSM 1DA84=NSM 1DA9B-1DAAF=NSM 1E000-1E08F=NSM 1E130-1E136=NSM 1E2AE=NSM",
    "1E2EC-1E2EF=NSM 1E2FF=ET 1E4EC-1E4EF=NSM 1E5EE-1E5EF=NSM 1E6E3=NSM 1E6E6=NSM 1E6EE-1E6EF=NSM",
    "1E6F5=NSM 1E800-1E8CF=R 1E8D0-1E8D6=NSM 1E922-1E943=R 1E944-1E94A=NSM 1E94B-1E95F=R",
    "1EC71-1ED3D=AL 1EEF0-1F12F=ON 1F16D-1F16F=ON 1F1AD=ON 1F260-1FBFA=ON"]

/-- The direction of a character of a domain name. -/
def directionOf (c : Char) : Direction := (directions.find? c).getD .rightwards

/-- A character that runs to the left. -/
def runsLeft (c : Char) : Bool :=
  if c.toNat < 0x80 then false
  else [Direction.leftwards, .arabicLetter, .arabicNumber].contains (directionOf c)

/-- What stands beside letters and numbers in a label of either direction. -/
def companions : List Direction :=
  [.number, .numberSeparator, .commonSeparator, .numberTerminator, .neutral, .boundary, .mark]

/-- A label that begins with a letter running to the right keeps to that direction. -/
def keepsRightwards (rest : List Direction) : Bool :=
  (match (rest.reverse.dropWhile (· = .mark)).head? with
    | some d => [Direction.rightwards, .number].contains d
    | none => true)
    && rest.all fun d => d = .rightwards || companions.contains d

/-- A label that begins with a letter running to the left keeps to that direction, and its
numbers are of one kind. -/
def keepsLeftwards (rest : List Direction) : Bool :=
  (match (rest.reverse.dropWhile (· = .mark)).head? with
    | some d => [Direction.leftwards, .arabicLetter, .number, .arabicNumber].contains d
    | none => true)
    && (rest.all fun d =>
      [Direction.leftwards, .arabicLetter, .arabicNumber].contains d || companions.contains d)
    && !(rest.contains .number && rest.contains .arabicNumber)

/-- The direction of a label is plain. -/
def isPlainDirection (label : List Char) : Bool :=
  match label.map directionOf with
  | [] => true
  | .rightwards :: rest => keepsRightwards rest
  | .leftwards :: rest => keepsLeftwards rest
  | .arabicLetter :: rest => keepsLeftwards rest
  | _ => false

/-- A name that runs to the right throughout, or the direction of each of its labels is plain. -/
def directionsOk (labels : List (List Char)) : Bool :=
  !(labels.any (·.any runsLeft)) || labels.all isPlainDirection

end ChatCommands.Url
