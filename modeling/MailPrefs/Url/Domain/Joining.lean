import MailPrefs.Text.Mark

namespace MailPrefs.Domain

def joiningNext : Text.CodePoints := .ofText "
  620 626 628 62A-62E 633-63F 641-647 649-64A 66E-66F 679-687 69A-6BF 6C1-6C2 6CC 6CE 6D0-6D1
  6FA-6FC 6FF 712-714 71A-71D 71F-727 729 72B 72D-72E 74E-758 75C-76A 76D-770 772 775-777 77A-77F
  7CA-7EA 841-845 848 84A-853 855 860 862-865 868 886 889-88D 88F 8A0-8A9 8AF-8B0 8B3-8B8 8BA-8C8
  1807 1820-1878 1887-18A8 18AA A840-A872 10AC0-10AC4 10ACD 10AD3-10ADC 10ADE-10AE0 10AEB-10AEE
  10B80 10B82 10B86-10B88 10B8A-10B8B 10B8D 10B90 10BAD-10BAE 10D00-10D21 10D23 10EC3-10EC4
  10EC6-10EC7 10F30-10F32 10F34-10F44 10F51-10F53 10F70-10F73 10F76-10F81 10FB0 10FB2-10FB3 10FB8
  10FBB-10FBC 10FBE-10FBF 10FC1 10FC4 10FCA-10FCB 1E922-1E943"

def joiningPrevious : Text.CodePoints := .ofText "
  620 622-63F 641-64A 66E-66F 671-673 679-6D3 6D5 6EE-6EF 6FA-6FC 6FF 710 712-72F 74D-77F 7CA-7EA
  840-858 860 862-865 867-882 886 889-88F 8A0-8AC 8AE-8C8 1807 1820-1878 1887-18A8 18AA A840-A871
  10AC0-10AC5 10AC7 10AC9-10ACA 10ACE-10AD6 10AD8-10AE1 10AE4 10AEB-10AEF 10B80-10B91 10BA9-10BAE
  10D01-10D23 10EC2-10EC4 10EC6-10EC7 10F30-10F44 10F51-10F54 10F70-10F81 10FB0 10FB2-10FB6
  10FB8-10FBF 10FC1-10FC4 10FC9-10FCA 1E922-1E943"

def otherTransparent : Text.CodePoints := .ofText "CBF CC6 11A07-11A08 11C3F 1E94B"

/-- Letters join across such a character. -/
def isTransparent (c : Char) : Bool :=
  Text.isNonspacingMark c || otherTransparent.contains c

def nonJoiner : Char := '\u200c'

def joiner : Char := '\u200d'

/-- Whether a joiner fits between a text, given from its end, and another one: after a virama both
do, and the non-joiner does between letters that would join. -/
def joinerFits (c : Char) (before after : List Char) : Bool :=
  before.head?.any Text.isVirama ||
    (c = nonJoiner && (before.dropWhile isTransparent).head?.any joiningNext.contains &&
      (after.dropWhile isTransparent).head?.any joiningPrevious.contains)

def joinersFitAfter (before : List Char) : List Char → Bool
  | [] => true
  | c :: cs =>
    (!(c = nonJoiner || c = joiner) || joinerFits c before cs) &&
      joinersFitAfter (c :: before) cs

def joinersFit (label : List Char) : Bool :=
  joinersFitAfter [] label

end MailPrefs.Domain
