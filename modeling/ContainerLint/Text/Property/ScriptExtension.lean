import ContainerLint.Text.Property.Basic

/-!
# Script extensions

The characters used with each script, those shared with other scripts included.
-/

namespace ContainerLint.CharProperty

/-- The characters used with each script. -/
def scriptExtensions : List CharProperty := [
  ⟨["adlm", "adlam"],
    ["_wBAgBAuwGAxvDA.1uDrCEJEB"]⟩,
  ⟨["ahom"],
    ["g4lCaCOEW"]⟩,
  ⟨["hluw", "anatolianhieroglyphs"],
    ["ggxCmS"]⟩,
  ⟨["arab", "arabic"],
    ["gwBEB2GBhBwCvBwHeBBFqCBcv6FAxvDAuozByDQ8NC1BHAgBPwDEBmEjfbk7CejCC3BDg43BDBaBBBACABJBDBAB",
    "AGAEABABABCBBBACABABABABABBBACDBGBDBDBABJBQFCBEBQ0BB"]⟩,
  ⟨["armn", "armenian"],
    ["oYAoRlBCxBCCjs9BE"]⟩,
  ⟨["avst", "avestan"],
    ["3FA4rLBum3B1BDG"]⟩,
  ⟨["bali", "balinese"],
    ["g4GsCBxB"]⟩,
  ⟨["bamu", "bamum"],
    ["g1pB3CoowB4R"]⟩,
  ⟨["bass", "bassavah"],
    ["w26CdCF"]⟩,
  ⟨["batk", "batak"],
    ["g.GzBID"]⟩,
  ⟨["beng", "bengali"],
    ["8VA00BBRBaDBHCBCVBGBADDCICBCDIAEBBECYx2EABACBBAIAIACAEACC5_iBA"]⟩,
  ⟨["bhks", "bhaiksuki"],
    ["ggnCIBsBBNKc"]⟩,
  ⟨["bopo", "bopomofo"],
    ["nWABCNAQB1oLCEJBMKDCAGAjGAJqBwDflkzBB6IE"]⟩,
  ⟨["brah", "brahmi"],
    ["ggkCtCEjBJA"]⟩,
  ⟨["brai", "braille"],
    ["ggK_H"]⟩,
  ⟨["bugi", "buginese"],
    ["gwGbCBv9jBA"]⟩,
  ⟨["buhd", "buhid"],
    ["15FBJT"]⟩,
  ⟨["cans", "canadianaboriginal"],
    ["ggF_TwRlC6tgCP"]⟩,
  ⟨["cari", "carian"],
    ["3FAi9HACAzuDAuj1BwB"]⟩,
  ⟨["aghb", "caucasianalbanian"],
    ["kYAsBAsBAxugCzBLA"]⟩,
  ⟨["cakm", "chakma"],
    ["mvCJwyBJ2lgC0BBR"]⟩,
  ⟨["cham"],
    ["gwqB2BJNCJCD"]⟩,
  ⟨["cher", "cherokee"],
    ["gYCBAGBWBLBujE1CCFy7lBvC"]⟩,
  ⟨["chrs", "chorasmian"],
    ["w9jCb"]⟩,
  ⟨["zyyy", "common"],
    ["AgCaFauBBLBBBEXAfAhOCBJBADABIBABFFECT.DAGABA9TA3GAkQA8qBA1MDnhELCgBBeBJBBBGBKDKBORgB_BlB",
    "BCCFBaBQpBCE5UWKV_cgIzTCfBoDgQWBXCJBDBABZiNADANANAVAxQXfAxBOMDhFJF_CfAguG_BooWZmDCweAOBk",
    "1UJWUCLBSBDzEABfaFaF_DGBGKEyMMzBsBjwyB5HGzN8EzD8B1HKmBC9BDQIBHdE8B1GTMTM2CbGnE0CBmCBBCAC",
    "BCDBLBABGBgCBDCHBGBbBDBEBADGBzKCjJCxBxjFjCsC8BiWrBEjDMOCOBOBkBKtF4BZBBNrBEIXF6E3eEQDMD2D",
    "E.CGLEAPLE3BIJGnBIdCLEB.BzKMNCMDJF3BHOCKGIHyEBlDnghYAe_C"]⟩,
  ⟨["copt", "coptic", "qaac"],
    ["3FAoSADBBAsDBsDNwkKzDFG3IAom1Bb"]⟩,
  ⟨["xsux", "cuneiform"],
    ["ggoC5cmDuDBELjG"]⟩,
  ⟨["cprt", "cypriot"],
    ["gogCCEsBDIg2BFCABrBBBDACA"]⟩,
  ⟨["cpmn", "cyprominoan"],
    ["gogCBu0LiD"]⟩,
  ⟨["cyrl", "cyrillic"],
    ["8VAjCCBABABACAFAuHvJw6FKgFAsCA_DAn_DfjCA8_d_Cu8VBgw4B9BhBA"]⟩,
  ⟨["dsrt", "deseret"],
    ["gghCvC"]⟩,
  ⟨["deva", "devanagari"],
    ["8VAjyByCCqBw6EmBBB2fA_5hBJmFfgwcJ"]⟩,
  ⟨["diak", "divesakuru"],
    ["gomCGCACHBBBdBBCLJJ"]⟩,
  ⟨["dogr", "dogra"],
    ["krCLg2nBJm.b7B"]⟩,
  ⟨["dupl", "duployan"],
    ["3FAvSBBAYB34KAjujDqDFMDIHJCH"]⟩,
  ⟨["egyp", "egyptianhieroglyphs"],
    ["ggsC1iBK68D"]⟩,
  ⟨["elba", "elbasan"],
    ["3FAtSA6vgCnB"]⟩,
  ⟨["elym", "elymaic"],
    ["g_jCW"]⟩,
  ⟨["ethi", "ethiopic"],
    ["uYAx3DoCBDCGBABDCoBBDCgBBDCGBABDCOB4BBDCiCCfDZmvGWJGBGBGBGBGBGBGBGipfFCFCFJGBGxlvCGBDBBB",
    "O"]⟩,
  ⟨["gara", "garay"],
    ["swBAOADAg5hClBDcIB"]⟩,
  ⟨["geor", "georgian"],
    ["3FAxmBA24ClBBAFACvBw8CqBCC6cAllDlBBAFAjIA"]⟩,
  ⟨["glag", "glagolitic"],
    ["3FArSABA.LACAhIAx7CA.6DAl9C_CjPArheAwsuCGBQCGBBBE"]⟩,
  ⟨["goth", "gothic"],
    ["3FAsSBCAoBA.__Ba"]⟩,
  ⟨["gran", "grantha"],
    ["xqCBRBgUN8mEABBeCDB2fAvw8BDBHCBCVBGBBBEBJCBCCCAGAFGCGDE7iDBBA"]⟩,
  ⟨["grek", "greek"],
    ["3FAoSBCABABAKAuBACAqBHCDBAEABABCBABTB.BOPmpGEyBEEE0CC.JVCFClBCFCHBABABABeC0BBOBNCFBSCCBI",
    ".CAoGA.xiBA6uVuCRA_i0BlC"]⟩,
  ⟨["gujr", "gujarati"],
    ["xqCBRB7ICBIBCBVBGBBBECJBCBCCAPDCLHGwpnBJ"]⟩,
  ⟨["gong", "gunjalagondi"],
    ["3FAslCB6_kCFBBBkBBBBFHJ"]⟩,
  ⟨["guru", "gurmukhi"],
    ["xqCBRB7ECBFEBCVBGBBBBBBCABEEBCCDAHDBAHQ5tnBJ"]⟩,
  ⟨["gukh", "gurungkhema"],
    ["lrCA681C5B"]⟩,
  ⟨["hani", "han"],
    ["3FAouLZB4CM1GaPBCBMBMBMCAGI7FA0EPgBlBJAwBnB4BwBPLzBA4CYKEgDeB_tGgC_vUg4BH4vUtLCpDrbB6IE8",
    "jcBMBu7YR.2HButD_2pBgB5hEG9GCh0FOwpHPtTitC9QivBq6EF_iE"]⟩,
  ⟨["hang", "hangul"],
    ["goE_HhwHCEJBMOCGAjGA1B9CxDehCeh3dcjUj9KMWEwBpyJB6IE6BeDFCFCFCC"]⟩,
  ⟨["rohg", "hanifirohingya"],
    ["swBAOADAgBAzEArxhCnBIJ"]⟩,
  ⟨["hano", "hanunoo"],
    ["g5FW"]⟩,
  ⟨["hatr", "hatran"],
    ["gniCSBBFE"]⟩,
  ⟨["hebr", "hebrew"],
    ["nYBoU2BIaEFop9BZBEBABBBBBJ"]⟩,
  ⟨["hira", "hiragana"],
    ["hgMCEJBMQFBAEBD1CCH6CBoqzBB6IEKAtBBhjsB.ISAdCtlQA"]⟩,
  ⟨["armi", "imperialaramaic"],
    ["giiCVBI"]⟩,
  ⟨["zinh", "inherited", "qaai"],
    ["vYACABODGCACPBBBRBEBDwvBB7qEezX1BBABEsQBiGfwo3BPQNveAiozBtBCWgRCRHCGeDy6rYvH"]⟩,
  ⟨["phli", "inscriptionalpahlavi"],
    ["g7iCSFH"]⟩,
  ⟨["prti", "inscriptionalparthian"],
    ["g6iCVCH"]⟩,
  ⟨["java", "javanese"],
    ["gsqBtCBKEB"]⟩,
  ⟨["kthi", "kaithi"],
    ["mrCJhmJA.veJmiaiCKA"]⟩,
  ⟨["knda", "kannada"],
    ["xqCBRB6YMBCBWBJBECIBCBDHBGBBDCJBC8.DABBGAXABA75iBF"]⟩,
  ⟨["kana", "katakana"],
    ["lYAdA9mLCEJBMQFBAEB7CDD_CwHPwGuBB3Ct3yBB6I.BwisBDBGBBBA_ICyBAOD"]⟩,
  ⟨["kawi"],
    ["g4nCQBoBDc"]⟩,
  ⟨["kali", "kayahli"],
    ["goqBvB"]⟩,
  ⟨["khar", "kharoshthi"],
    ["gwiCDBBFHBCBcCCEJHI"]⟩,
  ⟨["kits", "khitansmallscript"],
    ["k_7CA74G1OpBA"]⟩,
  ⟨["khmr", "khmer"],
    ["g8F9CCJGJmPf"]⟩,
  ⟨["khoj", "khojki"],
    ["m3CJgqnBJmuaRBuB"]⟩,
  ⟨["sind", "khudawadi"],
    ["krCBq2nBJ2za6BFJ"]⟩,
  ⟨["krai", "kiratrai"],
    ["gq7C5B"]⟩,
  ⟨["laoo", "lao"],
    ["h0DBBABEBXBABWCEBABGBJCD"]⟩,
  ⟨["latn", "latin"],
    ["hCZGZvBAMACAFWBeBgODAKABCBAJABAGEbOBBBAPCHBBBmBAFAEM1IBqmBBo9BAkgDlBGwBFDFMBlC5BAH_HvJAh",
    "CANAQMzCA5BBGAbARoB32Cf3MAoneHalDDiCCBBABHVNuJAhQqBBIBD28TG6gBZGZlhCFBpBBIl61BeGF"]⟩,
  ⟨["lepc", "lepcha"],
    ["ggH3BDODC"]⟩,
  ⟨["limb", "limbu"],
    ["lrCA68DeBLELEADL"]⟩,
  ⟨["lina", "lineara"],
    ["nogCsBsmB2JJVKH"]⟩,
  ⟨["linb", "linearb"],
    ["gggCLBZBSBBBOCNiB6DFCEsBDI"]⟩,
  ⟨["lisu"],
    ["8VAQA8pLBkmdvBw1eA"]⟩,
  ⟨["lyci", "lycian"],
    ["6iIAlx4Bc"]⟩,
  ⟨["lydi", "lydian"],
    ["3FA5rLAu32BZFA"]⟩,
  ⟨["mahj", "mahajani"],
    ["3FAslCLg2nBJ2oamB"]⟩,
  ⟨["maka", "makasar"],
    ["g3nCY"]⟩,
  ⟨["mlym", "malayalam"],
    ["xqCBRB6cMBCByBBCBFEPCZ66DAXA95iBC"]⟩,
  ⟨["mand", "mandaic"],
    ["gyBA_PbCA"]⟩,
  ⟨["mani", "manichaean"],
    ["gyBA_jhCmBEL"]⟩,
  ⟨["marc", "marchen"],
    ["wjnCfCVBN"]⟩,
  ⟨["gonm", "masaramgondi"],
    ["krCB68kCGBBBrBDABBBIIJ"]⟩,
  ⟨["medf", "medefaidrin"],
    ["gy7C6C"]⟩,
  ⟨["mtei", "meeteimayek"],
    ["g3qBWpGtBCJ"]⟩,
  ⟨["mend", "mendekikakui"],
    ["gg6DkGCP"]⟩,
  ⟨["merc", "meroiticcursive"],
    ["gtiCXETCtB"]⟩,
  ⟨["mero", "meroitichieroglyphs"],
    ["9iIAip6Bf"]⟩,
  ⟨["plrd", "miao"],
    ["g47CqCE4BHQ"]⟩,
  ⟨["modi"],
    ["whqBJmubkCLJ"]⟩,
  ⟨["mong", "mongolian"],
    ["ggGZG4CHqBk8BAx.DBFD0y5BM"]⟩,
  ⟨["mroo", "mro"],
    ["gy6CeBJEB"]⟩,
  ⟨["mult", "multani"],
    ["mzCJwgiCGBABDBOBK"]⟩,
  ⟨["mymr", "myanmar"],
    ["ggE_EukmBAxFehDfwibT"]⟩,
  ⟨["nbat", "nabataean"],
    ["gkiCeII"]⟩,
  ⟨["nagm", "nagmundari"],
    ["wm5DpB"]⟩,
  ⟨["nand", "nandinagari"],
    ["xqCASBgcJ5_DAIAHA15iBFqrcHCtBCK"]⟩,
  ⟨["talu", "newtailue"],
    ["gsGrBEZGKDB"]⟩,
  ⟨["newa"],
    ["xqCBi8EABBJAGABABAy49B7CBE"]⟩,
  ⟨["nkoo", "nko"],
    ["swBAOADAgN6BCC.p9BB"]⟩,
  ⟨["nshu", "nushu"],
    ["h_7CAusQrM"]⟩,
  ⟨["hmnp", "nyiakengpuachuehmong"],
    ["go4DsBDNCJEB"]⟩,
  ⟨["ogam", "ogham"],
    ["g0Fc"]⟩,
  ⟨["olck", "olchiki"],
    ["wiHvB"]⟩,
  ⟨["onao", "olonal"],
    ["krCBqj3DqBEA"]⟩,
  ⟨["hung", "oldhungarian"],
    ["6iIACAzuDAPA.x3ByBNyBHF"]⟩,
  ⟨["ital", "olditalic"],
    ["g4gCjBJC"]⟩,
  ⟨["narb", "oldnortharabian"],
    ["g0iCf"]⟩,
  ⟨["perm", "oldpermic"],
    ["3FAoSAFCKAvLAs2_BqB"]⟩,
  ⟨["xpeo", "oldpersian"],
    ["g9gCjBEN"]⟩,
  ⟨["sogo", "oldsogdian"],
    ["g4jCnB"]⟩,
  ⟨["sarb", "oldsoutharabian"],
    ["gziCf"]⟩,
  ⟨["orkh", "oldturkic"],
    ["6iIA1uDAvu3BoC"]⟩,
  ⟨["ougr", "olduyghur"],
    ["gyBAxlhCA9jBZ"]⟩,
  ⟨["orya", "oriya"],
    ["xqCBRB7MCBHCBCVBGBBBECICBCCHCEBBECRirEAXA"]⟩,
  ⟨["osge", "osage"],
    ["hYACAGAsCA3qgCjBEjB"]⟩,
  ⟨["osma", "osmanya"],
    ["gkhCdCJ"]⟩,
  ⟨["hmng", "pahawhhmong"],
    ["g46ClCKJBGBUFS"]⟩,
  ⟨["palm", "palmyrene"],
    ["gjiCf"]⟩,
  ⟨["pauc", "paucinhau"],
    ["g2mC4B"]⟩,
  ⟨["phag", "phagspa"],
    ["igGBBAphCAy.DA9he3B"]⟩,
  ⟨["phnx", "phoenician"],
    ["goiCbDA"]⟩,
  ⟨["phlp", "psalterpahlavi"],
    ["gyBA_phCRHDMG"]⟩,
  ⟨["rjng", "rejang"],
    ["wpqBjBLA"]⟩,
  ⟨["runr", "runic"],
    ["g1F4C"]⟩,
  ⟨["samr", "samaritan"],
    ["ggCtBCOyvJA"]⟩,
  ⟨["saur", "saurashtra"],
    ["gkqBlCIL"]⟩,
  ⟨["shrd", "sharada"],
    ["xqCAl8EABACBCAJACAi6iBFCAnqa_C"]⟩,
  ⟨["shaw", "shavian"],
    ["3FA48gCvB"]⟩,
  ⟨["sidd", "siddham"],
    ["gslC1BClB"]⟩,
  ⟨["sgnw", "signwriting"],
    ["gg2DrUPEBO"]⟩,
  ⟨["sinh", "sinhala"],
    ["krCB7gBCBRDXBIBACGDAEFBABHGJCC93DAun9BT"]⟩,
  ⟨["sogd", "sogdian"],
    ["gyBAvniCpB"]⟩,
  ⟨["sora", "sorasompeng"],
    ["wmkCYHJ"]⟩,
  ⟨["soyo", "soyombo"],
    ["wymCyC"]⟩,
  ⟨["sund", "sundanese"],
    ["g8G_BgIH"]⟩,
  ⟨["sunu", "sunuwar"],
    ["gYBBAJACAcADAukmChBOJ"]⟩,
  ⟨["sylo", "sylotinagri"],
    ["krCBgEJwwnBsB"]⟩,
  ⟨["syrc", "syriac"],
    ["jYBCBBAYCHBBB6WAOBCAgBAKKaAvENB7BCCwIKtsFABA"]⟩,
  ⟨["tglg", "tagalog"],
    ["g4FVJAVB"]⟩,
  ⟨["tagb", "tagbanwa"],
    ["15FBpBMBCBB"]⟩,
  ⟨["tale", "taile"],
    ["gYBFBDAzpDJmoCdCE"]⟩,
  ⟨["lana", "taitham"],
    ["gxG.BBcCKGJGN"]⟩,
  ⟨["tavt", "taiviet"],
    ["g0qBiCYE"]⟩,
  ⟨["takr", "takri"],
    ["krCBq2nBJmyb5BGJ"]⟩,
  ⟨["taml", "tamil"],
    ["xqCBRB8QBBFDCBDDBBABBDBDCDLEEDCBDCAGAOU_mEA4gjBAtwaABA3BBjkDxBNA"]⟩,
  ⟨["tnsa", "tangsa"],
    ["wz6CuCBJ"]⟩,
  ⟨["tang", "tangut"],
    ["w_LPvPAwvvCAf3_FI_XgQI"]⟩,
  ⟨["telu", "telugu"],
    ["xqCBRB6UMBCBWBPCIBCBDHBBCCACDCJHI1iEBBABAXA"]⟩,
  ⟨["thaa", "thaana"],
    ["swBAOBCAgCJ2IxBgy9BAKA"]⟩,
  ⟨["thai"],
    ["8VAaArBAtBAv2C5BFb"]⟩,
  ⟨["tibt", "tibetan"],
    ["g4DnCBjBEmBBjBBOBGEBthID"]⟩,
  ⟨["tfng", "tifinagh"],
    ["iYABABDZAswK3BHBOA"]⟩,
  ⟨["tirh", "tirhuta"],
    ["xqCBRBv7EAMAPA95iBJmibnCIJ"]⟩,
  ⟨["todr", "todhri"],
    ["hYACACAJABAqCAhzgCzB"]⟩,
  ⟨["toto"],
    ["8VAz.3De"]⟩,
  ⟨["tutg", "tulutigalari"],
    ["mnDJigEABA75iBF7FAu0aJBACABlBBJBACABDBJBBIB"]⟩,
  ⟨["ugar", "ugaritic"],
    ["g8gCdBA"]⟩,
  ⟨["vaii", "vai"],
    ["gopBrJ"]⟩,
  ⟨["vith", "vithkuqi"],
    ["wrhCKBOBGBBBKBOBGBB"]⟩,
  ⟨["wcho", "wancho"],
    ["g24D5BFA"]⟩,
  ⟨["wara", "warangciti"],
    ["glmCyCMA"]⟩,
  ⟨["yezi", "yezidi"],
    ["swBAOADAgCJ2giCpBBCCB"]⟩,
  ⟨["yiii", "yi"],
    ["hgMBFJCH_GAk4bskBD2B60WE"]⟩,
  ⟨["zanb", "zanabazarsquare"],
    ["gwmCnC"]⟩]

end ContainerLint.CharProperty
