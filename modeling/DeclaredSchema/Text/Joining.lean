import DeclaredSchema.Text.Mark

/-!
# Joined letters

In some scripts a letter takes its shape from its neighbours. Two invisible characters ask for
joining or for none, and have a place only where that makes a difference.
-/

namespace DeclaredSchema.Text

/-- Letters that join with the next one. -/
def joiningNext : CodePointSet := .ofTable "
    620 621 626 627 628 629 62a 62f 633 640 641 648 649 64b 66e 670 678 688 69a 6c0 6c1 6c3 6cc
    6cd 6ce 6cf 6d0 6d2 6fa 6fd 6ff 700 712 715 71a 71e 71f 728 729 72a 72b 72c 72d 72f 74e 759
    75c 76b 76d 771 772 773 775 778 77a 780 7ca 7eb 841 846 848 849 84a 854 855 856 860 861 862
    866 868 869 886 887 889 88e 88f 890 8a0 8aa 8af 8b1 8b3 8b9 8ba 8c9 1807 1808 1820 1879 1887
    18a9 18aa 18ab a840 a873 10ac0 10ac5 10acd 10ace 10ad3 10add 10ade 10ae1 10aeb 10aef 10b80
    10b81 10b82 10b83 10b86 10b89 10b8a 10b8c 10b8d 10b8e 10b90 10b91 10bad 10baf 10d00 10d22
    10d23 10d24 10ec3 10ec5 10ec6 10ec8 10f30 10f33 10f34 10f45 10f51 10f54 10f70 10f74 10f76
    10f82 10fb0 10fb1 10fb2 10fb4 10fb8 10fb9 10fbb 10fbd 10fbe 10fc0 10fc1 10fc2 10fc4 10fc5
    10fca 10fcc 1e900 1e944"

/-- Letters that join with the one before. -/
def joiningPrevious : CodePointSet := .ofTable "
    620 621 622 640 641 64b 66e 670 671 674 675 6d4 6d5 6d6 6ee 6f0 6fa 6fd 6ff 700 710 711 712
    730 74d 780 7ca 7eb 840 859 860 861 862 866 867 86b 870 883 886 887 889 890 8a0 8ad 8ae 8c9
    1807 1808 1820 1879 1887 18a9 18aa 18ab a840 a872 10ac0 10ac6 10ac7 10ac8 10ac9 10acb 10ace
    10ad7 10ad8 10ae2 10ae4 10ae5 10aeb 10af0 10b80 10b92 10ba9 10baf 10d01 10d24 10ec2 10ec5
    10ec6 10ec8 10f30 10f45 10f51 10f55 10f70 10f82 10fb0 10fb1 10fb2 10fb7 10fb8 10fc0 10fc1
    10fc5 10fc9 10fcb 1e900 1e944"

/-- What joining takes no notice of. -/
def transparent : CodePointSet := .ofTable "
    ad ae 300 370 483 48a 591 5be 5bf 5c0 5c1 5c3 5c4 5c6 5c7 5c8 610 61b 61c 61d 64b 660 670 671
    6d6 6dd 6df 6e5 6e7 6e9 6ea 6ee 70f 710 711 712 730 74b 7a6 7b1 7eb 7f4 7fd 7fe 816 81a 81b
    824 825 828 829 82e 859 85c 897 8a0 8ca 8e2 8e3 903 93a 93b 93c 93d 941 949 94d 94e 951 958
    962 964 981 982 9bc 9bd 9c1 9c5 9cd 9ce 9e2 9e4 9fe 9ff a01 a03 a3c a3d a41 a43 a47 a49 a4b
    a4e a51 a52 a70 a72 a75 a76 a81 a83 abc abd ac1 ac6 ac7 ac9 acd ace ae2 ae4 afa b00 b01 b02
    b3c b3d b3f b40 b41 b45 b4d b4e b55 b57 b62 b64 b82 b83 bc0 bc1 bcd bce c00 c01 c04 c05 c3c
    c3d c3e c41 c46 c49 c4a c4e c55 c57 c62 c64 c81 c82 cbc cbd cbf cc0 cc6 cc7 ccc cce ce2 ce4
    d00 d02 d3b d3d d41 d45 d4d d4e d62 d64 d81 d82 dca dcb dd2 dd5 dd6 dd7 e31 e32 e34 e3b e47
    e4f eb1 eb2 eb4 ebd ec8 ecf f18 f1a f35 f36 f37 f38 f39 f3a f71 f7f f80 f85 f86 f88 f8d f98
    f99 fbd fc6 fc7 102d 1031 1032 1038 1039 103b 103d 103f 1058 105a 105e 1061 1071 1075 1082
    1083 1085 1087 108d 108e 109d 109e 135d 1360 1712 1715 1732 1734 1752 1754 1772 1774 17b4 17b6
    17b7 17be 17c6 17c7 17c9 17d4 17dd 17de 180b 180e 180f 1810 1885 1887 18a9 18aa 1920 1923 1927
    1929 1932 1933 1939 193c 1a17 1a19 1a1b 1a1c 1a56 1a57 1a58 1a5f 1a60 1a61 1a62 1a63 1a65 1a6d
    1a73 1a7d 1a7f 1a80 1ab0 1ade 1ae0 1aec 1b00 1b04 1b34 1b35 1b36 1b3b 1b3c 1b3d 1b42 1b43 1b6b
    1b74 1b80 1b82 1ba2 1ba6 1ba8 1baa 1bab 1bae 1be6 1be7 1be8 1bea 1bed 1bee 1bef 1bf2 1c2c 1c34
    1c36 1c38 1cd0 1cd3 1cd4 1ce1 1ce2 1ce9 1ced 1cee 1cf4 1cf5 1cf8 1cfa 1dc0 1e00 200b 200c 200e
    2010 202a 202f 2060 2065 206a 2070 20d0 20f1 2cef 2cf2 2d7f 2d80 2de0 2e00 302a 302e 3099 309b
    a66f a673 a674 a67e a69e a6a0 a6f0 a6f2 a802 a803 a806 a807 a80b a80c a825 a827 a82c a82d a8c4
    a8c6 a8e0 a8f2 a8ff a900 a926 a92e a947 a952 a980 a983 a9b3 a9b4 a9b6 a9ba a9bc a9be a9e5 a9e6
    aa29 aa2f aa31 aa33 aa35 aa37 aa43 aa44 aa4c aa4d aa7c aa7d aab0 aab1 aab2 aab5 aab7 aab9 aabe
    aac0 aac1 aac2 aaec aaee aaf6 aaf7 abe5 abe6 abe8 abe9 abed abee fb1e fb1f fe00 fe10 fe20 fe30
    feff ff00 fff9 fffc 101fd 101fe 102e0 102e1 10376 1037b 10a01 10a04 10a05 10a07 10a0c 10a10
    10a38 10a3b 10a3f 10a40 10ae5 10ae7 10d24 10d28 10d69 10d6e 10eab 10ead 10efa 10f00 10f46
    10f51 10f82 10f86 11001 11002 11038 11047 11070 11071 11073 11075 1107f 11082 110b3 110b7
    110b9 110bb 110c2 110c3 11100 11103 11127 1112c 1112d 11135 11173 11174 11180 11182 111b6
    111bf 111c9 111cd 111cf 111d0 1122f 11232 11234 11235 11236 11238 1123e 1123f 11241 11242
    112df 112e0 112e3 112eb 11300 11302 1133b 1133d 11340 11341 11366 1136d 11370 11375 113bb
    113c1 113ce 113cf 113d0 113d1 113d2 113d3 113e1 113e3 11438 11440 11442 11445 11446 11447
    1145e 1145f 114b3 114b9 114ba 114bb 114bf 114c1 114c2 114c4 115b2 115b6 115bc 115be 115bf
    115c1 115dc 115de 11633 1163b 1163d 1163e 1163f 11641 116ab 116ac 116ad 116ae 116b0 116b6
    116b7 116b8 1171d 1171e 1171f 11720 11722 11726 11727 1172c 1182f 11838 11839 1183b 1193b
    1193d 1193e 1193f 11943 11944 119d4 119d8 119da 119dc 119e0 119e1 11a01 11a0b 11a33 11a39
    11a3b 11a3f 11a47 11a48 11a51 11a57 11a59 11a5c 11a8a 11a97 11a98 11a9a 11b60 11b61 11b62
    11b65 11b66 11b67 11c30 11c37 11c38 11c3e 11c3f 11c40 11c92 11ca8 11caa 11cb1 11cb2 11cb4
    11cb5 11cb7 11d31 11d37 11d3a 11d3b 11d3c 11d3e 11d3f 11d46 11d47 11d48 11d90 11d92 11d95
    11d96 11d97 11d98 11ef3 11ef5 11f00 11f02 11f36 11f3b 11f40 11f41 11f42 11f43 11f5a 11f5b
    13430 13441 13447 13456 1611e 1612a 1612d 16130 16af0 16af5 16b30 16b37 16f4f 16f50 16f8f
    16f93 16fe4 16fe5 1bc9d 1bc9f 1bca0 1bca4 1cf00 1cf2e 1cf30 1cf47 1d167 1d16a 1d173 1d183
    1d185 1d18c 1d1aa 1d1ae 1d242 1d245 1da00 1da37 1da3b 1da6d 1da75 1da76 1da84 1da85 1da9b
    1daa0 1daa1 1dab0 1e000 1e007 1e008 1e019 1e01b 1e022 1e023 1e025 1e026 1e02b 1e08f 1e090
    1e130 1e137 1e2ae 1e2af 1e2ec 1e2f0 1e4ec 1e4f0 1e5ee 1e5f0 1e6e3 1e6e4 1e6e6 1e6e7 1e6ee
    1e6f0 1e6f5 1e6f6 1e8d0 1e8d7 1e944 1e94c e0001 e0002 e0020 e0080 e0100 e01f0"

def joiner : Char := '\u200d'

def nonJoiner : Char := '\u200c'

/-- Whether two letters around a place would join. `before` is read backwards. -/
def wouldJoin (before behind : List Char) : Bool :=
  (before.dropWhile transparent.contains).head?.any joiningNext.contains &&
    (behind.dropWhile transparent.contains).head?.any joiningPrevious.contains

/-- Whether all joiners have their place: behind a sign that silences a vowel, or, where they forbid
joining, between letters that would join. `before` is read backwards. -/
def joinersFit (before : List Char) : List Char → Bool
  | [] => true
  | c :: rest =>
    let isSilenced := before.head?.any (combiningClass · = viramaClass)
    (if c = joiner then isSilenced
      else if c = nonJoiner then isSilenced || wouldJoin before rest
      else true) && joinersFit (c :: before) rest

end DeclaredSchema.Text
