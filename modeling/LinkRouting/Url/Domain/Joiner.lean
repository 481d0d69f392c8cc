import LinkRouting.Text.Composed

/-!
# Joiners in a label

The two invisible joiners change how the letters beside them are shown.  They may stand in a label
only where they do: after a virama, and the one that keeps letters apart also between two letters
that would join, with nothing but transparent characters in between.
-/

namespace LinkRouting
namespace Url

/-- How a letter joins its neighbours. -/
inductive Joining where
  | none
  | transparent
  | left
  | right
  | both
  | causing
  deriving DecidableEq, Repr

/-- How the characters that names hold join, by ranges, which run across other characters: 1
transparent, 2 to the left, 3 to the right, 4 both, 5 causing. What is in no range
does not join. -/
def joinings : Text.Table := .ofLines
  ["300:36f:1 483:489:1 591:5bd:1 5bf:5bf:1 5c1:5c2:1 5c4:5c5:1 5c7:5c7:1 610:61a:1 620:620:4",
   "622:625:3 626:626:4 627:627:3 628:628:4 629:629:3 62a:62e:4 62f:632:3 633:63f:4 640:640:5",
   "641:647:4 648:648:3 649:64a:4 64b:65f:1 66e:66f:4 670:670:1 671:673:3 679:687:4 688:699:3",
   "69a:6bf:4 6c0:6c0:3 6c1:6c2:4 6c3:6cb:3 6cc:6cc:4 6cd:6cd:3 6ce:6ce:4 6cf:6cf:3 6d0:6d1:4",
   "6d2:6d3:3 6d5:6d5:3 6d6:6dc:1 6df:6e4:1 6e7:6e8:1 6ea:6ed:1 6ee:6ef:3 6fa:6fc:4 6ff:6ff:4",
   "710:710:3 711:711:1 712:714:4 715:719:3 71a:71d:4 71e:71e:3 71f:727:4 728:728:3 729:729:4",
   "72a:72a:3 72b:72b:4 72c:72c:3 72d:72e:4 72f:72f:3 730:74a:1 74d:74d:3 74e:758:4 759:75b:3",
   "75c:76a:4 76b:76c:3 76d:770:4 771:771:3 772:772:4 773:774:3 775:777:4 778:779:3 77a:77f:4",
   "7a6:7b0:1 7ca:7ea:4 7eb:7f3:1 7fa:7fa:5 7fd:7fd:1 816:819:1 81b:823:1 825:827:1 829:82d:1",
   "840:840:3 841:845:4 846:847:3 848:848:4 849:849:3 84a:853:4 854:854:3 855:855:4 856:858:3",
   "859:85b:1 860:860:4 862:865:4 867:867:3 868:868:4 869:882:3 883:885:5 886:886:4 889:88d:4",
   "88e:88e:3 88f:88f:4 897:89f:1 8a0:8a9:4 8aa:8ac:3 8ae:8ae:3 8af:8b0:4 8b1:8b2:3 8b3:8b8:4",
   "8b9:8b9:3 8ba:8c8:4 8ca:902:1 93a:93a:1 93c:93c:1 941:948:1 94d:94d:1 951:957:1 962:963:1",
   "981:981:1 9bc:9bc:1 9c1:9c4:1 9cd:9cd:1 9e2:9e3:1 9fe:a02:1 a3c:a3c:1 a41:a51:1 a70:a71:1",
   "a75:a75:1 a81:a82:1 abc:abc:1 ac1:ac8:1 acd:acd:1 ae2:ae3:1 afa:b01:1 b3c:b3c:1 b3f:b3f:1",
   "b41:b44:1 b4d:b56:1 b62:b63:1 b82:b82:1 bc0:bc0:1 bcd:bcd:1 c00:c00:1 c04:c04:1 c3c:c3c:1",
   "c3e:c40:1 c46:c56:1 c62:c63:1 c81:c81:1 cbc:cbc:1 cbf:cbf:1 cc6:cc6:1 ccc:ccd:1 ce2:ce3:1",
   "d00:d01:1 d3b:d3c:1 d41:d44:1 d4d:d4d:1 d62:d63:1 d81:d81:1 dca:dca:1 dd2:dd6:1 e31:e31:1",
   "e34:e3a:1 e47:e4e:1 eb1:eb1:1 eb4:ebc:1 ec8:ece:1 f18:f19:1 f35:f35:1 f37:f37:1 f39:f39:1",
   "f71:f7e:1 f80:f84:1 f86:f87:1 f8d:fbc:1 fc6:fc6:1 102d:1030:1 1032:1037:1 1039:103a:1",
   "103d:103e:1 1058:1059:1 105e:1060:1 1071:1074:1 1082:1082:1 1085:1086:1 108d:108d:1",
   "109d:109d:1 135d:135f:1 1712:1714:1 1732:1733:1 1752:1753:1 1772:1773:1 17b7:17bd:1",
   "17c6:17c6:1 17c9:17d3:1 17dd:17dd:1 1807:1807:4 180a:180a:5 1820:1878:4 1885:1886:1",
   "1887:18a8:4 18a9:18a9:1 18aa:18aa:4 1920:1922:1 1927:1928:1 1932:1932:1 1939:193b:1",
   "1a17:1a18:1 1a1b:1a1b:1 1a56:1a56:1 1a58:1a60:1 1a62:1a62:1 1a65:1a6c:1 1a73:1a7f:1",
   "1ab0:1b03:1 1b34:1b34:1 1b36:1b3a:1 1b3c:1b3c:1 1b42:1b42:1 1b6b:1b73:1 1b80:1b81:1",
   "1ba2:1ba5:1 1ba8:1ba9:1 1bab:1bad:1 1be6:1be6:1 1be8:1be9:1 1bed:1bed:1 1bef:1bf1:1",
   "1c2c:1c33:1 1c36:1c37:1 1cd0:1cd2:1 1cd4:1ce0:1 1ce2:1ce8:1 1ced:1ced:1 1cf4:1cf4:1",
   "1cf8:1cf9:1 1dc0:1dff:1 200d:200d:5 20d0:20f0:1 2cef:2cf1:1 2d7f:2d7f:1 2de0:2dff:1",
   "302a:302d:1 3099:309a:1 a66f:a672:1 a674:a67d:1 a69e:a69f:1 a6f0:a6f1:1 a802:a802:1",
   "a806:a806:1 a80b:a80b:1 a825:a826:1 a82c:a82c:1 a840:a871:4 a872:a872:2 a8c4:a8c5:1",
   "a8e0:a8f1:1 a8ff:a8ff:1 a926:a92d:1 a947:a951:1 a980:a982:1 a9b3:a9b3:1 a9b6:a9b9:1",
   "a9bc:a9bd:1 a9e5:a9e5:1 aa29:aa2e:1 aa31:aa32:1 aa35:aa36:1 aa43:aa43:1 aa4c:aa4c:1",
   "aa7c:aa7c:1 aab0:aab0:1 aab2:aab4:1 aab7:aab8:1 aabe:aabf:1 aac1:aac1:1 aaec:aaed:1",
   "aaf6:aaf6:1 abe5:abe5:1 abe8:abe8:1 abed:abed:1 fb1e:fb1e:1 fe20:fe2f:1 101fd:101fd:1",
   "102e0:102e0:1 10376:1037a:1 10a01:10a0f:1 10a38:10a3f:1 10ac0:10ac4:4 10ac5:10ac5:3",
   "10ac7:10ac7:3 10ac9:10aca:3 10acd:10acd:2 10ace:10ad2:3 10ad3:10ad6:4 10ad7:10ad7:2",
   "10ad8:10adc:4 10add:10add:3 10ade:10ae0:4 10ae1:10ae1:3 10ae4:10ae4:3 10ae5:10ae6:1",
   "10aeb:10aee:4 10aef:10aef:3 10b80:10b80:4 10b81:10b81:3 10b82:10b82:4 10b83:10b85:3",
   "10b86:10b88:4 10b89:10b89:3 10b8a:10b8b:4 10b8c:10b8c:3 10b8d:10b8d:4 10b8e:10b8f:3",
   "10b90:10b90:4 10b91:10b91:3 10ba9:10bac:3 10bad:10bae:4 10d00:10d00:2 10d01:10d21:4",
   "10d22:10d22:3 10d23:10d23:4 10d24:10d27:1 10d69:10d6d:1 10eab:10eac:1 10ec2:10ec2:3",
   "10ec3:10ec4:4 10ec6:10ec7:4 10efa:10eff:1 10f30:10f32:4 10f33:10f33:3 10f34:10f44:4",
   "10f46:10f50:1 10f51:10f53:4 10f54:10f54:3 10f70:10f73:4 10f74:10f75:3 10f76:10f81:4",
   "10f82:10f85:1 10fb0:10fb0:4 10fb2:10fb3:4 10fb4:10fb6:3 10fb8:10fb8:4 10fb9:10fba:3",
   "10fbb:10fbc:4 10fbd:10fbd:3 10fbe:10fbf:4 10fc1:10fc1:4 10fc2:10fc3:3 10fc4:10fc4:4",
   "10fc9:10fc9:3 10fca:10fca:4 10fcb:10fcb:2 11001:11001:1 11038:11046:1 11070:11070:1",
   "11073:11074:1 1107f:11081:1 110b3:110b6:1 110b9:110ba:1 110c2:110c2:1 11100:11102:1",
   "11127:1112b:1 1112d:11134:1 11173:11173:1 11180:11181:1 111b6:111be:1 111c9:111cc:1",
   "111cf:111cf:1 1122f:11231:1 11234:11234:1 11236:11237:1 1123e:1123e:1 11241:11241:1",
   "112df:112df:1 112e3:112ea:1 11300:11301:1 1133b:1133c:1 11340:11340:1 11366:11374:1",
   "113bb:113c0:1 113ce:113ce:1 113d0:113d0:1 113d2:113d2:1 113e1:113e2:1 11438:1143f:1",
   "11442:11444:1 11446:11446:1 1145e:1145e:1 114b3:114b8:1 114ba:114ba:1 114bf:114c0:1",
   "114c2:114c3:1 115b2:115b5:1 115bc:115bd:1 115bf:115c0:1 115dc:115dd:1 11633:1163a:1",
   "1163d:1163d:1 1163f:11640:1 116ab:116ab:1 116ad:116ad:1 116b0:116b5:1 116b7:116b7:1",
   "1171d:1171d:1 1171f:1171f:1 11722:11725:1 11727:1172b:1 1182f:11837:1 11839:1183a:1",
   "1193b:1193c:1 1193e:1193e:1 11943:11943:1 119d4:119db:1 119e0:119e0:1 11a01:11a0a:1",
   "11a33:11a38:1 11a3b:11a3e:1 11a47:11a47:1 11a51:11a56:1 11a59:11a5b:1 11a8a:11a96:1",
   "11a98:11a99:1 11b60:11b60:1 11b62:11b64:1 11b66:11b66:1 11c30:11c3d:1 11c3f:11c3f:1",
   "11c92:11ca7:1 11caa:11cb0:1 11cb2:11cb3:1 11cb5:11cb6:1 11d31:11d45:1 11d47:11d47:1",
   "11d90:11d91:1 11d95:11d95:1 11d97:11d97:1 11ef3:11ef4:1 11f00:11f01:1 11f36:11f3a:1",
   "11f40:11f40:1 11f42:11f42:1 11f5a:11f5a:1 13440:13440:1 13447:13455:1 1611e:16129:1",
   "1612d:1612f:1 16af0:16af4:1 16b30:16b36:1 16f4f:16f4f:1 16f8f:16f92:1 16fe4:16fe4:1",
   "1bc9d:1bc9e:1 1cf00:1cf46:1 1d167:1d169:1 1d17b:1d182:1 1d185:1d18b:1 1d1aa:1d1ad:1",
   "1d242:1d244:1 1da00:1da36:1 1da3b:1da6c:1 1da75:1da75:1 1da84:1da84:1 1da9b:1daaf:1",
   "1e000:1e08f:1 1e130:1e136:1 1e2ae:1e2ae:1 1e2ec:1e2ef:1 1e4ec:1e4ef:1 1e5ee:1e5ef:1",
   "1e6e3:1e6e3:1 1e6e6:1e6e6:1 1e6ee:1e6ef:1 1e6f5:1e6f5:1 1e8d0:1e8d6:1 1e922:1e943:4",
   "1e944:1e94b:1"]

/-- How a character joins. -/
def joining (c : Char) : Joining :=
  match joinings.inRange? c.toNat with
  | some [1] => .transparent
  | some [2] => .left
  | some [3] => .right
  | some [4] => .both
  | some [5] => .causing
  | _ => .none

/-- Whether the first character that is not transparent joins one way, or both ways. -/
def joinsFirst (side : Joining) (cs : List Char) : Bool :=
  match (cs.map joining).dropWhile (· == .transparent) with
  | j :: _ => j == side || j == .both
  | [] => false

/-- Whether the last of the characters, given latest first, is a virama. -/
def endsInVirama (before : List Char) : Bool :=
  (before.head?.map Text.combiningClass) == some 9

/-- Whether each joiner stands where it may, with the characters before given latest first. -/
def joinersFit (before : List Char) : List Char → Bool
  | [] => true
  | c :: cs =>
    let fits :=
      if c.toNat = 0x200C then
        endsInVirama before || (joinsFirst .left before && joinsFirst .right cs)
      else if c.toNat = 0x200D then endsInVirama before
      else true
    fits && joinersFit (c :: before) cs

end Url
end LinkRouting
