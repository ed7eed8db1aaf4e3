import ContainerLint.Text.Property.Basic

/-!
# Binary properties

One entry for each property that a character simply has or has not.
-/

namespace ContainerLint.CharProperty

/-- The properties that a character has or has not. -/
def binaries : List CharProperty := [
  ⟨["ahex", "asciihexdigit"],
    ["wBJHFaF"]⟩,
  ⟨["alpha", "alphabetic"],
    ["hCZGZvBAKAEAFWBeBpOELOEHABA2CAdRBBCDBAGABCBABTByCBqEIlFBlBCAGoBnBNBABBBBBAIaEDdKF3BBGOlD",
    "BHEHECKCCAQvBNkDYgBJBEAFXCSTYHKFXBFIAIpBKLDGGrCBPBCEONSBHCBCVBGBADDDHCBCBBAIAEBBEMBKAECB",
    "FEBCVBGBBBBBBEEEBCBEAHDBARFLCBIBCBVBGBBBEDIBCBBDAPDVDECBHCBCVBGBBBEDHCBCBJBEBBENAQBBFDCB",
    "DDBBABBDBDCDLEEDCBCDAGAoBMBCBWBPDHBCBCIBBCCACDcDBHBCBWBJBEDHBCBCIBGBBDNCMMBCBoBCHBCBCBAF",
    "DHEWFBCBRDXBIBACGIFBABHSBN5BFGGAzBBBABEBXBABSBCCEBAGAODgBA_BHBjBESEPBjBjC2BBACEQ_BKDClBB",
    "AFACqBBsKBDCGBABDCoBBDCgBBDCGBABDCOB4BBDCiClBPQ1CCFDrTCQBZFqCDKHTLUMTMMBCBBMzBCSOAEAjC4C",
    "HqBFlCKeBLEIXdCELrBEZ2BbE.BCTyBAXBLCxBzBBOBHzBpBCDKrBBKO2BWCKjBCKFqBCCpBDBFBBDAF_FThBL1I",
    "CFClBCFCHBABABABeC0BBGBADCBGDDCFEMFCBG0DANAQMlDAEACJBADEGABABABDBKCDFEEARoBtZzB24BkHGDDB",
    "MlBBAFAC3BHAQWJGBGBGBGBGBGBGBGBfvBA1OCZIHECEE1CGCB5CBDFqBB9CRfwBPgQ_tGgCs0VjCtBCsIDPKBUu",
    "BFHDwDnBICmDCiCCBBABHVTBgBYzBMjCBAsBFDABCKgBFiBNcDyBBLPAQPKEB2BJNSWDkCBABAYCCPCDLFCFCFJG",
    "BGBqBBNG6DVj9KMWEwBkoItLCpDmBGMEFLBMBEBABBBBBrDhBqLS_BC1BoBL0DEBmEkBZGZL4CDFCFCFCCjBLBZB",
    "SBBBOCNiB6DlC0BrIcDwBvBfNdFqBFdCjBEHBEqB9ESjBEjBEnBIzBMKBOBGBBBKBOBGBBDzBM2JJVKHYFBpBBIl",
    "CFCABrBBBDACWKWJehCSBBKVKZmC3BGBgCDBBFHBCBcqBcDcjBHBbb1BKVKSNRuDoC3ByBNyBNnBiBbDAFW6HpBB",
    "BDBQC3BADcKAIVqBRuBUbWJlCrBEK4BJANYXyBRDIiBDAJ_BBDJBKABAjBRBhBCAGD.BGBABDBOBJH4BXDBHCBCV",
    "BGBBBEDHCBCBDAGAFGcJBACABlBBJBACABDBBDABAsBhCBCBDUCehCCBBA4F1BCGZFiB.BBADA7B1BCAnCaCNVG5",
    "F4BnD_BfHCACHBBBdBBCBCD9CHCtBCFBABBbyBCJRnCFASoCnGgBfIBsBBGBAxBdCVBNpCGBBBrBDABBBCBACBYF",
    "BBBkBBBBDBAnKWJQBoBDCvDAvC5cmDuDRjGsyCgDPvhBRFZ68DFmS51GuBx2B4RHeRuCRdSvBQDfUFSwNsBzG_Bg",
    "EqCE4BHQgCBBAMBO3_FI1mBpBJn3IDBGBBBiJPAdCCAODIrMkoCqDFMDIHJEAh7F0CBmCBBCACBCDBLBABGBgCBD",
    "CHBGBbBDBEBADGBzKCYBYBeBYBeBYBeBYBeBYBH05BeGF1GGBQCGBBBEF9BhBAwDsBKGQAhKdSrBkPbkHdCAvPGB",
    "DBBBOBkG7BjCDADA0lBDBaBBBACABJBDBABAGAEABABABCBBBACABABABABABBBACDBGBDBDBABJBQFCBEBQ0TZG",
    "ZGZ2zD_2pBgB5hEG9GCh0FOwpHPtTitC9QivBq6EF_iE"]⟩,
  ⟨["bidic", "bidicontrol"],
    ["8wBAxvGBaE3BD"]⟩,
  ⟨["bidim", "bidimirrored"],
    ["oBBSABAcABAdABAtBAPA.zDD96BB8sCBKB2BBOBxFAgGDDFDADBDDBDBABAEIFABRFDJBBABHBfCDFAJBCSFBJEC",
    "BEXCPIDUBHB9hBNqCACDBBBCFDFCDNzMVCFBNIAHFDAEEBBCEEABCCBKFCBMSBDCABACABDFBGCYBLBEDBBCBEqB",
    "CHBnBFABADEFCEADEBAgIAjQDDBBBOBCJrBHrNJCH9xzBFFBiFBSABAcABAdABABBBB371BA5BA5BA5BA5BA"]⟩,
  ⟨["ci", "caseignorable"],
    ["nBAGALAjBABAnCAEABAEACB3P_FEBEAJBBA7HGvGAFAxBsBBABBBBBAsBALFKKBAjBAKUQAlDHBJBDhBABAea7CK",
    "6BKEACAYXrBCsBAHBFIpB5B3BABAEHEADGKBNAPA6BAEDIAUBaACB5BAEBEBCCDAeBDALB5BAEEBBEAUBWFBA6BA",
    "CABDIAHBLBeA9BAMAyBADA3BABCFCBDHBLBdA6BACAGAFBUBcB5BBEDIAUBdAoCAHCBA6CACGLIiDACIJABGpCBb",
    "ABABA3BNBEBBFKBjBJAmDDBFBBCBZBECQDNACBGAPA.CAgTCydCdBeBeBgCBBGIACKDAFAtBEzBAhCBiBA2DCEBJ",
    "AGC7GBCA6BABGBABACHGJCAnBAIexBDwBABEBAFAoBIMBgBDCBBC4BABBDABC6BHCBgCFyCCBMBGEAGADByB.BNA",
    "iBkD9NABCLCNCNCNBMEIBKACACExBEBJBANAQMzBgBr8CBxDC9DAPAgDfvBA1OAkBDDEFA9CF9CC24bAinBFuIAi",
    "DDBJBAcDwCBOhBuCAXCnDCDBIADAEAZBFA3EBaRNAmBHZKuBCwBACDCBRAVBiCFCBCBMAIAjBALAzBABCCBFBBAb",
    "AOBFBBAkDEJC5DACAEAw5TAzEQ9RPDAMPiBACApFAHAGALAjBABAvBAtBBjCAVChQAiHA1EElgBFBpBBImSCBBFD",
    "oBCEAlFB9RDmBAaEBA7JBvCDmCKxBD7DA2BOpBACBKCxBDCBCAEAKAyBCkBEBH.BAMB0BIKDCA_CCCABBGACA9EA",
    "DHVB5BBDAlBGDEmCFNABABAOB1CHCCBAXA0CFBAEBBBuHDGBBBbB1CHCABBqDABACFBAlDABACDBEjIIBBgIBBAE",
    "AwEDCBEAgBJoBFCDIAJFCCuBMBB2MGBFBAyCVCGBBBB6DFDABBBGBAoCBDABA7KBLB0BEFABAXA1mFQGOomLLDCg",
    "uCE7BGJD8PCoBBiPA_BQgCBBBrgQDBGBB.kDBBD8yEtBCWgRCJPCGeD0EC79B2BExBIAOAWEBOwqBGBQCGBBBEF9",
    "BhBAgFNwLA9BD7PE.HBgXGtDHv1CEhgjYAe_CgEvH"]⟩,
  ⟨["cased"],
    ["hCZGZvBAKAEAFWBeBiGBDEvGCiBHBeEgDAqBDCBCDBAGABCBABTByCBqEIlFBlBJoB34ClBBAFACqBBDgV1CCFik",
    "CKFqBCCgC_FgC1ICFClBCFCHBABABABeC0BBGBADCBGDDCFEMFCBG0DANAQMlDAEACJBADEGABABABDBFEACDFEE",
    "ARfDBxZzB24BkHGDDBMlBBAFAyoetBSdkElDDDB9BCBBABHVEBC1ZqBBNGvCg6TGMEpgBZGZllBvCgDjBEjB0DKB",
    "OBGBBBKBOBGBBjOACCBpBBIlmByBNyB9CVKV64C_BgrV_BgsZ0CBmCBBCACBCDBLBABGBgCBDCHBGBbBDBEBADGB",
    "zKCYBYBeBYBeBYBeBYBeBYBH05BJBTGFlI9BykCjCs_BZGZGZ"]⟩,
  ⟨["cwcf", "changeswhencasefolded"],
    ["hCZ6CAKWBHgBABABABABABABABABABABABABABABABABABABABABABABABABABABABACABABABABABABABABBBAB",
    "ABABABABABABABABABABABABABABABABABABABABABBBABABABBBABBBCCDBBBCDBBBBABABBBACABBBCBABBDAH",
    "BBBBBBABABABABABABABACABABABABABABABABACBBABCBABABABABABABABABABABABABABABABABABABABABAB",
    "ABABABABABABABAHBBBCABDBABABABA2HAqBABADAIAGABCBABBBQBIWAMCDBBABABABABABABABABABABABABBC",
    "BBABBCyBwBABABABABABABABABABABABABABABABABAJABABABABABABABABABABABABABABABABABABABABABAB",
    "ABABABABABBBABABABABABACABABABABABABABABABABABABABABABABABABABABABABABABABABABABABABABAB",
    "ABABABABABABABABABABABABABABABAClBwBA44ClBBAFAqZFikCJGqBCCgKABABABABABABABABABABABABABAB",
    "ABABABABABABABABABABABABABABABABABABABABABABABABABABABABABABABABABABABABABABABABABABABAB",
    "ABABABABABABABABABABABABABABABABAFBCABABABABABABABABABABABABABABABABABABABABABABABABABAB",
    "ABABABABABABABABABABABABABABABABABABABABABABAJHIFKHIHIFLABABABAIHQvBCCCFFCCFLDMEFCCFpJAD",
    "BGAtBPTAyZZw5BvBwBABCCABABABDBACAICBABABABABABABABABABABABABABABABABABABABABABABABABABAB",
    "ABABABABABABABABABABABABABABABABABABABABABABAIABAEAtqeABABABABABABABABABABABABABABABABAB",
    "ABABABABABATABABABABABABABABABABABABABAnEABABABABABABADABABABABABABABABABABABABABABABABA",
    "BABABABABABABABABABABABABABAKABABBBABABABAEABACABADABABABABABABABABABABEBEBABABABABABABA",
    "BDBABBDAFABABABAYA6bvCg6TGMEpgBZlmBnBoEjB8EKBOBGBBq3ByB9EV65CfgsVfg1ehB"]⟩,
  ⟨["cwcm", "changeswhencasemapped"],
    ["hCZGZ6BAKWBeB_BBzCBbCNCBBAE8CBRGaBBBABBDBBDBECABBCAHACABBDFFAKBmFAqBDCBDCBAGABCBABTBuBDg",
    "BBEBkEIlFBlBKmB44ClBBAFACqBCCgV1CCFikCKFqBCC5FADAQAxD7ECAB1DCFClBCFCHBABABABeC0BBGBADCBG",
    "DDCFEMFCBGpJADBGAbARfDBxZzB24BwDBBBBHlDHDDBMlBBAFAyoetBSbmENC9BJODCCEBYBdCBBABHYB8aAcvCg",
    "6TGMEpgBZGZllBvCgDjBEjB0DKBOBGBBBKBOBGBBj2ByBNyB9CVKV64C_BgrV_Bg0ejC"]⟩,
  ⟨["cwl", "changeswhenlowercased"],
    ["hCZlDWBGhBABABABABABABABABABABABABABABABABABABABABABABABABABABABACABABABABABABABACABABAB",
    "ABABABABABABABABABABABABABABABABABABABABBBABADBBABBBCCDBBBCDBBBBABABBBACABBBCBABBDAHBBBB",
    "BBABABABABABABABACABABABABABABABABACBBABCBABABABABABABABABABABABABABABABABABABABABABABAB",
    "ABABABABABAHBBBCABDBABABABAhJABADAIAGABCBABBBQBIjBAIABABABABABABABABABABABAFACABBCyBwBAB",
    "ABABABABABABABABABABABABABABABAJABABABABABABABABABABABABABABABABABABABABABABABABABABABBB",
    "ABABABABABACABABABABABABABABABABABABABABABABABABABABABABABABABABABABABABABABABABABABABAB",
    "ABABABABABABABABABAClBp6ClBBAFAyW1CzkCAGqBCCgKABABABABABABABABABABABABABABABABABABABABAB",
    "ABABABABABABABABABABABABABABABABABABABABABABABABABABABABABABABABABABABABABABABABABABABAB",
    "ABABABABABABABABABAJABABABABABABABABABABABABABABABABABABABABABABABABABABABABABABABABABAB",
    "ABABABABABABABABABABABABABABAJHIFKHIHIFLABABABAIHYHIHIHIELELDMELEpJADBGAtBPTAyZZw5BvBwBA",
    "BCCABABABDBACAICBABABABABABABABABABABABABABABABABABABABABABABABABABABABABABABABABABABABA",
    "BABABABABABABABABABABABABAIABAEAtqeABABABABABABABABABABABABABABABABABABABABABABATABABABA",
    "BABABABABABABABABABAnEABABABABABABADABABABABABABABABABABABABABABABABABABABABABABABABABAB",
    "ABABABABAKABABBBABABABAEABACABADABABABABABABABABABABEBEBABABABABABABABDBABBDAFABABABAYAr",
    "5VZlmBnBoEjB8EKBOBGBBq3ByB9EV65CfgsVfg1ehB"]⟩,
  ⟨["cwt", "changeswhentitlecased"],
    ["hDZ6BApBXBHBABABABABABABABABABABABABABABABABABABABABABABABABABABABACABABABABABABABBBABAB",
    "ABABABABABABABABABABABABABABABABABABABABACABABCCABACADAFACADCCACABABACAEACADABACADABAEAB",
    "BBBBABABABABABABABABBBABABABABABABABABCBABADABABABABABABABABABABABABABABABABABABABADABAB",
    "ABABABABABABAIACBBAEABABABABFBBBABBDBBDBECABBCAHACABBDFFAKBmFArBABADADCSAbiBBBDCBABABABA",
    "BABABABABABABABEBACACA0BvBBABABABABABABABABABABABABABABABABAJABABABABABABABABABABABABABA",
    "BABABABABABABABABABABABABACABABABABABABBBABABABABABABABABABABABABABABABABABABABABABABABA",
    "BABABABABABABABABABABABABABABABABABABABABABABABAxBmBwzDFikCIBAuHADAQAyDABABABABABABABABA",
    "BABABABABABABABABABABABABABABABABABABABABABABABABABABABABABABABABABABABABABABABABABABABA",
    "BABABABABABABABABABABABABABABABABABABABABABGFABABABABABABABABABABABABABABABABABABABABABA",
    "BABABABABABABABABABABABABABABABABABABABABABABABABABIIFKHIHIFKHIHINCHIHIHIEBBGADCBBIDCBIH",
    "KCBB2KAhBPEAraZm6BvBBADBBABABAGACAKABABABABABABABABABABABABABABABABABABABABABABABABABABA",
    "BABABABABABABABABABABABABABABABABABABABABABABAIABAEAMlBBAFAzoeABABABABABABABABABABABABAB",
    "ABABABABABABABABABATABABABABABABABABABABABABABAnEABABABABABABADABABABABABABABABABABABABA",
    "BABABABABABABABABABABABABABABABABABAKABACABABABABAEAEABBCABABABABABABABABABALABABABABABA",
    "BABAEABACADABABABABABAaA8aAcvCg6TGMEphBZtmBnBoEjB7EKBOBGBBj4ByB9DV65CfgsVfi1ehB"]⟩,
  ⟨["cwu", "changeswhenuppercased"],
    ["hDZ6BApBXBHBABABABABABABABABABABABABABABABABABABABABABABABABABABABACABABABABABABABBBABAB",
    "ABABABABABABABABABABABABABABABABABABABABACABABCCABACADAFACADCCACABABACAEACADABACADABAFBB",
    "BBBBABABABABABABABBBABABABABABABABABBBBBADABABABABABABABABABABABABABABABABABABABADABABAB",
    "ABABABABABAIACBBAEABABABABFBBBABBDBBDBECABBCAHACABBDFFAKBmFArBABADADCSAbiBBBDCBABABABABA",
    "BABABABABABABEBACACA0BvBBABABABABABABABABABABABABABABABABAJABABABABABABABABABABABABABABA",
    "BABABABABABABABABABABABACABABABABABABBBABABABABABABABABABABABABABABABABABABABABABABABABA",
    "BABABABABABABABABABABABABABABABABABABABABABABAxBmBo6CqBCC4XFikCIBAuHADAQAyDABABABABABABA",
    "BABABABABABABABABABABABABABABABABABABABABABABABABABABABABABABABABABABABABABABABABABABABA",
    "BABABABABABABABABABABABABABABABABABABABABABABABGFABABABABABABABABABABABABABABABABABABABA",
    "BABABABABABABABABABABABABABABABABABABABABABABABABABABABIIFKHIHIFKHIHINC0BBBEABADCBBEADDC",
    "BIHKCBBEAxKAhBPEAraZm6BvBBADBBABABAGACAKABABABABABABABABABABABABABABABABABABABABABABABAB",
    "ABABABABABABABABABABABABABABABABABABABABABABABABABAIABAEAMlBBAFAzoeABABABABABABABABABABA",
    "BABABABABABABABABABABABATABABABABABABABABABABABABABAnEABABABABABABADABABABABABABABABABAB",
    "ABABABABABABABABABABABABABABABABABABABABAKABACABABABABAEAEABBCABABABABABABABABABALABABAB",
    "ABABABABAEABACADABABABABABAaA8aAcvCg6TGMEphBZtmBnBoEjB7EKBOBGBBj4ByB9DV65CfgsVfi1ehB"]⟩,
  ⟨["dash"],
    ["tBA8qBAzBAhyDAlgBApgCF9BAnBAPAmMAkgDACAfBEAcA.NATAvDAwszBBlBAKApFAgzDA.JA"]⟩,
  ⟨["di", "defaultignorablecodepoint"],
    ["tFAhVAsWAi6CBzyBB1CE7_BEaExBP0nEA7kzBPvHAgFAvCInlvBDvmFHl0rY__D"]⟩,
  ⟨["dep", "deprecated"],
    ["pKAppBAjoCABAphCBlmCF5VB2m3bA"]⟩,
  ⟨["dia", "diacritic"],
    [".CABAnCAGAEACB3P.EBHFFRBEAJB9HExGA3BsBBABBBBBAjEHEBmEBEBDCjCa7CK6BKiBB.DHpBJQb9BAQADDcAq",
    "CAQAuDAQAuDAQAvBC8BAQAHA3DAuDAQAuDAQAtDBQA8DAvDAMFBArDANErCBbABABAEBiCCBB.BAwDABBoBBEEZG",
    "BAKBhWC0dBeA0EKJA7KCkJAUHCAwBOCKoDAPAmBI2BB6BALBiCBgCFyCYEAGACCyB.BwBjBFLlBK9NABCLCNCNCN",
    "BwnDC9JA6PFpDD_CAyrdAMBBAcByCBOhBmDCtDBMAlBA3EAbR5BDkBA_CAMAkBA1EChCDzBAkDEJCgEBw5TAhYPu",
    "IABAvBAtBBjCA8XA_kBFBpBBI9TCEAlFB7RFmBAaEvMCmCKxBDgGApBAoCB4DB.BAsCAJCoDByFBwCBQAYGDE5CC",
    "BBNB_CADA7DB7HB.DA2DBzDAtIBiIBEA8EAzCASAxCAlNAiIABBxCApNBXAsnFO5mLAguCE7BG0RBiRQwCB._PDB",
    "GBBh4HtBCWgRCDFIHCGeDi0D9BiGG3LA9BD.XBgXGtDCBC"]⟩,
  ⟨["emoji"],
    ["jBAGAFJvDAEAt8HAMA4GAWA6CFPBvLBMAmFAZKECnGAnHBKAJA6BDBEJACACBCAEACABBCADADBICFABAFLLBCAB",
    "BBASACBSFBABBDBFACBEBLBFBCAFBBABBUBFFBDCAEACACFBACABABAGADAGAKBPACAEABAECBALBwBCJAOAOA0L",
    "BvOCTBzBAEA6mBAMA5SABAqrvDAqGAgFBMBOACJrCZBBXAUACIVBuFhBCvDCBBCCyCCCBmIB.BLFBXHBCHMACDCA",
    "EBNBCAIBJAFCMCICCABAEAGADAG1CwBlCFHCCEJDABBDACJjHLEA7IuBBJB4FwDMDJF3BHOCKGI"]⟩,
  ⟨["ecomp", "emojicomponent"],
    ["jBAGAFJz.HA1GArp3BA2.8BZ7PEwtBDszhY_C"]⟩,
  ⟨["emod", "emojimodifier"],
    ["7_8DE"]⟩,
  ⟨["ebase", "emojimodifierbase"],
    ["9wJA7GAQD3jzDA8BCCACC1DBCKVSDAECBCHABAYApGBEAVAEBuFCDEzCAQCJALA_RACAIHGAJJCC4BA9BBBBBARC",
    "BMlHCqBI"]⟩,
  ⟨["epres", "emojipresentation"],
    ["64IBtGDDACApQBVByBLrBATANAIBRBFBIAFAVAHBBAEACAHAEBcAjBABAECBA9BCYAOA7aBzBAEAulxDAqGA.FAC",
    "JrCZBAYAUACEBCVBuFgBMIBlCBVMqBEEMQDADmCBAB6FC.BNDBXSAaBNA2C0CwBlCGADCCCEDLBHIjHLEA7IuBBJ",
    "B4FwDMDJF3BHOCKGI"]⟩,
  ⟨["extpict", "extendedpictographic"],
    ["pFAEAt8HAMA4GAWA6CFPBvLBMAmFAZKECnGAnHBKAJA6BDBEJACACBCAEACABBCADADBICFABAFLLBCABBBASACB",
    "SFBABBDBFACBEBLBFBCAFBBABBUBFFBDCAEACACFBACABABAGADAGAKBPACAEABAECBALBwBCJAOAOA0LBvOCTBz",
    "BAEA6mBAMA5SABAqrvDAnBDkDLPBPAOBlBJwDBMBOACJT3BbOKAUACIBDJWG7FCvDCBBCCyCCCBDF9HB.BLFBXHB",
    "CHMACDCAEBNBCAIBJAFCMCICCABAEAGADAG1CwBlCFHCQDABFCM6GlBMD4BHKFoBHeBMDCNJmBMuBBJB4F4CHOxE",
    "gI9f"]⟩,
  ⟨["ext", "extender"],
    ["3FA4QBubA5NA2TApEA5CAwXA_DAjqCA4BAjTAuMAkCAp8EArBEnDB9CC24bA2vBAieAWApEAsDAVB7jVAwgCBruB",
    "AbAEAnmBAlJA0DByPCvmBAplUB8kBBBA4qcBxlBA0aC"]⟩,
  ⟨["grbase", "graphemebase"],
    ["gB.ChBMBxSwDHCFEGBABTB_GHlFBlBCxBCCuBABACACAJaEFRJLABtBVPBkDIAGBCAEfCABdd4CLAOqBJGDXEAJA",
    "DAHOBYFABKFeRpB5B2BBABDIDBCHJCcBBBHCBCVBGBADDDABBGBCBBANBBCEXFABFEBCVBGBBBBBBECYDBAHJCCB",
    "AMABIBCBVBGBBBEDDIABBDAPBELHAIBBHCBCVBGBBBEDACAGBCBPBBCERLABFDCBDDBBABBDBDCDLFABBDCBCDAV",
    "UGCBHBCBWBPDADDTCCACBEJHJBKBCBWBJBEDBCABBYBBBEJBCOKBCBoBCABBFCBCBBECBJEZCBBRDXBIBACGJBGG",
    "HJCCMvBBBLHIMlBBBABEBXBABJBBJACEBAJJCDgBXCaBABABNBjBSAFACExBHBFBMlBsBEAGACBCYCDDPEMBBCFB",
    "OBnBBAFAC4LBDCGBABDCoBBDCgBBDCGBABDCOB4BBDCiCFcDZG1CCFC8UD4CHRNSDBJROMBCPzBCAHHBBLIDJGJG",
    "KFJG4CHEChBBAFlCKeEDCCEBBFHADpBCELrBEZGKD4BCBD3BBAJABBIFNJGJGN2CvBKDDHBcJLCfEBG3BBACCBAN",
    "vBIBFOD9BFqBCKLANAHDBFBCCAF_FgC1ICFClBCFCHBABABABeC0BBOBNCFBSCCBIBKFXHwBQBCaBMDgB_BrEE5U",
    "WKVz4BCfB3KDBFsBBAFAC3BHBPWJGBGBGBGBGBGBGBGhB9CiBZB4CM1Ga5BGPB1CEkDFqBB9CB1CJvBBszcD2BJ7",
    "KUuBEAKfCvCCFItGCBBABHVPBCBDBYCEEJG3BIjCKLYMBlBIYLAMdGvBBBEBCBBMBKEGBYBoBGBCBLCBHBACJCfB",
    "yBBADBCECABAYQCHLFCFCFJGBGB7BE0DBBBDDJGj9KMWEwBkoItLCpDmBGMEFABXBEBABBBBB8DQ8NC1BHAgBPQJ",
    "WiBBSBDEEBmEE8ECeDFCFCFCCDGBGNBCLBZBSBBBOCNiB6DFCEsBD3CBMDAvBsBjEcDwBQaEjBJdFlBKdBkBENqB",
    "9ECJGjBEjBEnBIzBLLBOBGBBBKBOBGBBDzBM2JJVKHYFBpBBIlCFCABrBBBDACWBnCIIwBSBBFgBDaFAgC3BETCu",
    "BPDBCBcKIHIH_BgBkBGLJ1BDcCaFZHDMGwCoC3ByBNyBHpBMJGlBIXIBwGeBpBDACBQC7BnBIVLIWREDmBbUWJAB",
    "1BPGEdBBCAMwBEBCBBDOYHJJjBFAJRIiBBCLzBJABHEBBPBTLRBbDBEFBB_BGBABDBOBKGuBBCNJIBBHCBCVBGBB",
    "BEDABABDCBCBDAMGcJBACABlBBABBPABBDABCBBnB3BIBDABUBABCevBBBGABBBACACDIJmFuBBBGDCACakByBIB",
    "BACDLJGMTqBBABBIBGJGTcaDABBEAJW5FuBJACAkDyCMHCACHBBBXBEBBGDBCJJmCHCpBIDBDbAKnBGBEHJAGBDt",
    "BNACINoCHJ2FhBOJGIBlBOABFKcDfZAHACArCGBBBlBVAJJGFBBBkBEBBABAHJ2JSCDJOBjBIBDW2CAPxBN6cmDu",
    "DBELjGsyCiDNvhBRFZ68DFmS51GdMCDJm2B4RHeBJEwCBJGdHAKvBHOKJBGBUFSwN5BmG6ClDqCF3BLMgCDc3_FI",
    "1mBpBJn3IDBGBBBiJPAdCCAODIrMkoCqDFMDIHJCACAg7D5HGzN8EzD8B1HKmBC7BFCWBHdE8BVhCDA6DTMTM2CJ",
    "YnE0CBmCBBCACBCDBLBABGBgCBDCHBGBbBDBEBADGBzKCjJCxR3BDyBHBNBG0jBeGFlI9ByEsBKGCJEBgKdSrBEJ",
    "FAwObEJ2GdCKEAgPGBDBBBOBkGCIwBjCHAEJEBxYjCsC8BiGDBaBBBACABJBDBABAGAEABABABCBBBACABABABAB",
    "ABBBACDBGBDBDBABJBQFCBEBQ0BBuIrBEjDMOCOBOBkBKtF4BcNrBEIHBOF6E3eEQDMD2DE.CGLEAPLE3BIJGnBI",
    "dCLEB.BzKMNCMDJF3BHOCKGIHyEBlDmgB_2pBgB5hEG9GCh0FOwpHPtTitC9QivBq6EF_iE"]⟩,
  ⟨["grext", "graphemeextend"],
    ["gYvDzIGnIsBBABBBBBAoCKwBUQAlDGCFCBBDjBAea7CK6BIJAYDBIBCBErBC7BIqBXBf3BABAEHEADGKBdA6BABA",
    "CDIAJAKBaACB5BAEBEBCCDAeBDALB5BAEEBBEAUBWFBA6BABBBDIAHCKBeA7BABAMAJAoBADA3BABCFCBDHBLBdA",
    "6BACBBADCBDHBLBcB5BBBACDIAJAKBdAoCAEACCBAIAxCACGMHiDACILGpCBbABABA3BNBEBBFKBjBJAmDDBFBBC",
    "BZBECQDNACBGAPA_VCydDcCdBeBgCBBGIACKJAtBCBA1DBiBA2DCEBJAGC7GBCA6BABGBABACHGJCAwBexBDwBJE",
    "CmBIMBgBDCF4BABBDABE4BHCB4ECBMBGEAGADBmG_BsQAjGgB._CCtEAgDfqRFpDB0udDBJgBBwCBwIADAEAZBFA",
    "3EBaRNAmBHZKBAsBCwBACDCBCAkBAjCFCBCBMAIAvBAzBABCCBFBBAqBBIAuHACAEAw5TAhXPQPuLB9SAiHA1EEm",
    "0BCBBFDoBCEAlFB9RDhCE9JBvCDmCKxBD7DA2BOpBACBKCxBDCBHA9BCkBEBH.BAMB0BIBAIDCA_CCCDGACA9EAD",
    "HVB5BBBABAMAJAOGDEjCACFBACABCECBAOB1CHCCBAXAxCACFBACABBBBrHACDGBBBbB1CHCABBqDABACHlDABAC",
    "DBEjIIBB1HAKDEAwEDCBEAgBJoBFCDIAJFCCuBMBB2MGBFBAyCVCGBBBB6DFDABBBGBAoCBDABA7KBLB0BEFCXAl",
    "nFAGOomLLDCguCE7BG4gBA_BDxCALBrlTBhzEtBCW.QEDFIHCGeD0EC79B2BExBIAOAWEBOwqBGBQCGBBBEkDAgF",
    "G3LA9BD8PD.HBgXGtDG12lY_CgEvH"]⟩,
  ⟨["grlink", "graphemelink"],
    ["u.kCC.qTA"]⟩,
  ⟨["hex", "hexdigit"],
    ["wBJHFaFp1_BJHFaF"]⟩,
  ⟨["hyphen"],
    ["tBA_DA8mBA7zEApgCBlwDAjXAnrzBApFA3CA"]⟩,
  ⟨["idsb", "idsbinaryoperator"],
    ["w_LBCJxPA"]⟩,
  ⟨["idst", "idstrinaryoperator"],
    ["y_LB"]⟩,
  ⟨["idsu", "idsunaryoperator"],
    ["._LB"]⟩,
  ⟨["idcompatmathcontinue"],
    ["yFBFA29HADKBOzLAEAWAiltDAZAfAZAfAZAfAZAfAZA"]⟩,
  ⟨["idcompatmathstart"],
    ["iwIAEAWAiltDAZAfAZAfAZAfAZAfAZA"]⟩,
  ⟨["idc", "idcontinue"],
    ["wBJHZEABZvBAKABACAFWBeBpOELOEHABAR0DBBCDBAGEBABTByCBqEBEClFBlBCAGoBIsBBABBBBBAIaEDdKFpCE",
    "lDBHCJBSCAQ6BCkDO1BEACACtBSbEKFXBFIqCBgECJBSBHCBCVBGBADDCICBCDIAEBBECLKABACCBFEBCVBGBBBB",
    "BBCABEEBCCDAHDBAHPLCBIBCBVBGBBBECJBCBCCAPDCJJGBCBHCBCVBGBBBECICBCCHCEBBECJBAQBBFDCBDDBBA",
    "BBDBDCDLEEDCBDCAGAOJQMBCBWBPCIBCBDHBBCCACDCJQDBHBCBWBJBECIBCBDHBGBBDCJBCMMBCByBBCBEFDHEC",
    "JKFBCBRDXBIBACGDAEFBABHGJCBN5BFOBJnBBBABEBXBABWCEBABGBJCDgBAXBGJLABABAEJBjBETBRBjBJA5BpC",
    "GtCClBBAFACqBBsKBDCGBABDCoBBDCgBBDCGBABDCOB4BBDCiCCCJIOPQ1CCFDrTCQBZFqCDKHVJVLTMMBCBBMzC",
    "DAEBCJhBCBKG4CHqBFlCKeBLELKnBCELrBEZGKlBbE.BBcCKGJNAINBPxBsCDJRIMzDM3BIJDwBCKFqBCCQCBmBF",
    "1QCFClBCFCHBABABABeC0BBGBADCBGDDCFEMFCBGPBxBBTAcANAQMzBMEADLRAEACJBACFGABABABPCDFEEARoB3",
    "zCkHGIMlBBAFAC3BHAPXJGBGBGBGBGBGBGBGBflQCZOBECEE1CCGB.CFqBB9CRfwBPgQ_tGgCs0VjCtBCsIDbUvB",
    "EJByDlBICmDCiCCBBABHV1BEATzBMlCKJGXDABwBCjBMcDgCOKGeB2BJNCJGWDoCYCCPCEKFCFCFJGBGBqBBNG6D",
    "BBCJGj9KMWEwBkoItLCpDmBGMEFLBMBEBABBBBBrDhBqLS_BC1BoBLEPQPDBYCgBEBmETJHZEABZK5CDFCFCFCCj",
    "BLBZBSBBBOCNiB6DlC0BoEAiEcDwBPAffNdFqBFdCjBEHBEqB9ECJGjBEjBEnBIzBMKBOBGBBBKBOBGBBDzBM2JJ",
    "VKHYFBpBBIlCFCABrBBBDACWKWJehCSBBKVKZmC3BGBgCDBBFHBCBcCCEAgBcDcjBHBdZ1BKVKSNRuDoC3ByBNyB",
    "NnBIJGlBDEBW6HpBBBDBQC3BgBKAIgBfVqBUbWJmCfPJ7BHANYHJG0BBJEDIjBCAJkCEDBMBAjBRBkBGD.BGBABD",
    "BOBJH6BFJGDBHCBCVBGBBBEBJCBCCCAGAFGCGDELJBACABlBBJBACABDBHNBdqCFJEDelCBAIJmF1BCIXFiBgCDA",
    "LJmB4BHJGTcaCOEJGG5F6BlDpCVHCACHBBBdBBCIMJmCHCtBCHBBb.BIAIpCDASoCnGgBPJGIBsBBIPJYdCVBNpC",
    "GBBBrBDABBBIIJGFBBBkBBBBFHJ2JWJQBoBDENK1CAvC5cmDuDRjGsyCgDPvhBQVK68DFmS51G5Bm2B4RHeBJGuC",
    "BJGdCEL2BJDMJJUFSwNsBDJmG_BgEqCE4BHQgCBBBLBO3_FI1mBpBJn3IDBGBBBiJPAdCCAODIrMkoCqDFMDIHJD",
    "BxiEJmQtBCW.QEDFIHCGeD0EC7N0CBmCBBCACBCDBLBABGBgCBDCHBGBbBDBEBADGBzKCYBYBeBYBeBYBeBYBeBY",
    "BHCxBgQ2BExBIAOAWEBOwiBeGF1GGBQCGBBBEF9BhBAwDsBDNCJEAhKeR5B2OpB2GqBlPGBDBBBOBkGLGpBrCEJm",
    "lBDBaBBBACABJBDBABAGAEABABABCBBBACABABABABABBBACDBGBDBDBABJBQFCBEBQ0pDJmgB_2pBgB5hEG9GCh",
    "0FOwpHPtTitC9QivBq6EF_iEwq3VvH"]⟩,
  ⟨["ids", "idstart"],
    ["hCZGZvBAKAEAFWBeBpOELOEHABAhEEBBCDBAGABCBABTByCBqEIlFBlBCAGoBnCaEDtBqBjBBBiDBAPBHBKCCAQA",
    "Bdd4CLAYgBJBEAFVEAJADAXYHKFXBFRpB6B1BDASAHJPPEHCBCVBGBADDDAQANBBCOBKAIFEBCVBGBBBBBBfDBAT",
    "CQIBCBVBGBBBEDASAPBXALHCBCVBGBBBEDAeBBCPARABFDCBDDBBABBDBDCDLWA0BHBCBWBPDAaCCACBeAEHBCBW",
    "BJBEDAfBBBPBRIBCBoBCAQAFCICYFFRDXBIBACG6BvBBBMG6BBBABEBXBABJBBJACEBAVDgBA_BHBjBbEzDqBUAQ",
    "FEDDADBHCEMMARlBBAFACqBBsKBDCGBABDCoBBDCgBBDCGBABDCOB4BBDCiClBPQ1CCFDrTCQBZFqCDKHRNSOROM",
    "BCPzBjBAEAjC4CHoBBAFlCKexBdCELrBEZ2BWJ0ByCA9CuBRH2BdNBKrBajBpBCKjBCKFqBCCpBDBFBBDAF_FgC1",
    "ICFClBCFCHBABABABeC0BBGBADCBGDDCFEMFCBG0DANAQMlDAEACJBACFGABABABPCDFEEARoB3zCkHGDDBMlBBA",
    "FAC3BHAQWJGBGBGBGBGBGBGBGmRCZIHECEE1CEEB5CBDFqBB9CRfwBPgQ_tGgCs0VjCtBCsIDPKBUuBQeCvCnBIC",
    "mDCiCCBBABHVPBCBDBWdzBOxB.BFDABBLbKWZcHuBcAQEBJKEBoBXCBHUWDADxBBADBCECABAYCCKHCMFCFCFJGB",
    "GBqBBNGyDdj9KMWEwBkoItLCpDmBGMEFABJBMBEBABBBBBrDhBqLS_BC1BoBL0DEBmEkBZGZL4CDFCFCFCCjBLBZ",
    "BSBBBOCNiB6DlC0BrIcDwBvBfNdFlBKdCjBEHBEqB9ESjBEjBEnBIzBMKBOBGBBBKBOBGBBDzBM2JJVKHYFBpBBI",
    "lCFCABrBBBDACWKWJehCSBBKVKZmC3BGBgCAPDBCBcqBcDcjBHBbb1BKVKSNRuDoC3ByBNyBNjBmBbJW6HpBGBQC",
    "7BcKAIVqBRuBUbWM0B5BBCANsBgBYajBdACAIiBDAMvBODVABAjBRBYTB_BGBABDBOBJHuBmBHCBCVBGBBBEDASA",
    "MEeJBACABlBBAZABAsB0BSDUCevBUBBA4FuBpBDkBvBUA7BqBNAnCalBG5FrB0D_BfHCACHBBBXPABA.CHCmBQAB",
    "AcAKnBHAVALtBTASoCnGgBfIBkBRAxBdwDGBBBlBVAZFBBBfOAnKSPABMBhB8DAvC5cmDuDRjGsyCgDPvhBRFZ68",
    "DFmS51Gdi3B4RHeRuCRdSvBQDfUFSwNsBzG_BgEqCFAiCMgCBBAc3_FI1mBpBJn3IDBGBBBiJPAdCCAODIrMkoCq",
    "DFMDIHJm7F0CBmCBBCACBCDBLBABGBgCBDCHBGBbBDBEBADGBzKCYBYBeBYBeBYBeBYBeBYBH05BeGFlI9ByEsBK",
    "GQAhKdSrBkPbkHdCAvPGBDBBBOBkG7BjCHA0lBDBaBBBACABJBDBABAGAEABABABCBBBACABABABABABBBACDBGB",
    "DBDBABJBQFCBEBQkqE_2pBgB5hEG9GCh0FOwpHPtTitC9QivBq6EF_iE"]⟩,
  ⟨["ideo", "ideographic"],
    ["mgMBZIOCle_tGgC_vUgoWtLCpDqodAb3_FI1mBpBJnjJrMkoT_2pBgB5hEG9GCh0FOwpHPtTitC9QivBq6EF_iE"]⟩,
  ⟨["joinc", "joincontrol"],
    ["sgIB"]⟩,
  ⟨["loe", "logicalorderexception"],
    ["gyDE7DEw3CCCA6nkBBCABB"]⟩,
  ⟨["lower", "lowercase"],
    ["hDZvBAKAEAkBXBHBABABABABABABABABABABABABABABABABABABABABABABABABABABABBBABABABABABABABBB",
    "ABABABABABABABABABABABABABABABABABABABABABABACABABCCABACADBEACADCCACABABACABBBACADABACBC",
    "CGACACABABABABABABABABBBABABABABABABABABBCABADABABABABABABABABABABABABABABABABABABABABAB",
    "ABABABABABABABABGCACBBAEABABABABkCCiBHBeEgDArBABADACDSAbiBBBDCBABABABABABABABABABABABEBA",
    "CACBzBvBBABABABABABABABABABABABABABABABABAJABABABABABABABABABABABABABABABABABABABABABABA",
    "BABABABACABABABABABABBBABABABABABABABABABABABABABABABABABABABABABABABABABABABABABABABABA",
    "BABABABABABABABABABABABABABABAwBoBn6CqBBD4XFikCIBA1D_FhCABABABABABABABABABABABABABABABAB",
    "ABABABABABABABABABABABABABABABABABABABABABABABABABABABABABABABABABABABABABABABABABABABAB",
    "ABABABABABABABABABABABABABABIBABABABABABABABABABABABABABABABABABABABABABABABABABABABABAB",
    "ABABABABABABABABABABABABABABABABABABABIIFKHIHIFKHIHINCHIHIHIEBBGADCBBIDCBIHKCBB5DANAQMtD",
    "ADBDAbAEAEACBIDEAhBPEAraZm6BvBBADBBABABAEABBBHDABABABABABABABABABABABABABABABABABABABABA",
    "BABABABABABABABABABABABABABABABABABABABABABABABABABABABABBHABAEAMlBBAFAzoeABABABABABABAB",
    "ABABABABABABABABABABABABABABABATABABABABABABABABABABABABABClEABABABABABABCBABABABABABABA",
    "BABABABABABABABABABABABABABABABABABABABABABABABJBABACABABABABAEABACABCBABABABABABABABABA",
    "BAFAFABABABABABABABAEABACADABABABABABAWCBABC1ZqBBNGvCg6TGMEphBZtmBnBoEjB7EKBOBGBBjOACCBp",
    "BBIloByB9DV65CfgsVf6sZZaGBRaZaDBABGBKaZaZaZaZaZaZaZaZabcYBFaYBFaYBFaYBFaYBFBA05BJBTGFlI9",
    "B0lChB"]⟩,
  ⟨["math"],
    ["rBAQCfAdABAtBAEAlBAfA4WCCAaBCCvQCtwGAbCLADANAODVELEhCMEADBEESAEACJBACFGADBCBBCBFDNBAkCXB",
    "FBBEBEfBAGBOrIIDUB6CAeaBAYALG9NBMJEFEBCBDEOABACFLHFB5BABAdDJCwK_BgI_PwBUCF8.zBA3ZFBAiFAQ",
    "CdABAdABAjEAGDhtDBwzxB0CBmCBBCACBCDBLBABGBgCBDCHBGBbBDBEBADGBzKCjJCxBgwFDBaBBBACABJBDBAB",
    "AGAEABABABCBBBACABABABABABBBACDBGBDBDBABJBQFCBEBQ0BB"]⟩,
  ⟨["mcm", "modifiercombiningmark"],
    ["0yBBCAjEAGADBhPBBCDAfA"]⟩,
  ⟨["nchar", "noncharactercodepoint"],
    ["wu_BfuQB.__BB.__BB.__BB.__BB.__BB.__BB.__BB.__BB.__BB.__BB.__BB.__BB.__BB.__BB.__BB.__BB"]⟩,
  ⟨["oalpha", "otheralphabetic"],
    ["laAdMgSNBABBBBBAoCKwBMBGQAlDGEDCBEAjBAePmDKlDBDIBCBDqDA8BLDGGT2BBCOBBFCKBdC6BGCBCBKAKBdC",
    "6BEEBCBEAeBDALC6BHBCBBVBWCEC6BGCBCBJBKBeA7BEDCBCKAoBE5BGBCBCIBLBdC6BGBCBCIBLBPAMD6BGBCBC",
    "KAKBdCrCFBABHSB9BACGSAjDACFBBQAjFSJKBjBuDLBACDXDECBCCGDDNLBAKD0zBBeBeBeBiCS8FBiBA2DLEI.G",
    "E5BJCTqCBLCxBEwBO8BCeICB5BKyBS8MhBh2BzB2nCf0jeHiBBiLAIAXE4CByBPBA5BAmBEcLtBDwBLlBAjCNMAI",
    "BtBCyBABCCBFAsBEFAtHHz5TA3iCEm0BCBBFD0YDhCAhKBvCAjIC1BNtBBLCtBIJA9BCkBLSB5BCwBMOB8CICAGA",
    "CA9EJXD6BGCBCBKAKB0CIBACABDBBnDMBCqDRtHGCGdByCOBAqDKnDNhIM3HFBBCBDABAuEGCFEAcJqBEBDSKuBN",
    "3MHBGzCVBN6DFDABBBCBADAiCEBBBD8KDJBBAwBGDC9uQQgxDAB2BHD9CBslTAh7IGBQCGBBBEkDA3lCAo_BZGZG",
    "Z"]⟩,
  ⟨["odi", "otherdefaultignorablecodepoint"],
    ["vaAvwDBzyBBvlCA.nEA7xzBAvCInggaABdgD_DwHvwD"]⟩,
  ⟨["ogrext", "othergraphemeextend"],
    [".tCAYAmLAYAmDAYAoHABAEBBBJBnDAYA3DAPA1pCAeAggBAFABAFBlDAnCB4gBAhhEBjpeAsDA9uVBgxEA0DAoIA",
    "OAJAgDAJACABCFAgHAMAxHAmIA5TAMAjwBAulUBzrYBGFt1rY_C"]⟩,
  ⟨["oidc", "otheridcontinue"],
    ["3FAvWAh_DIozBAxxBBtnEApzzBA"]⟩,
  ⟨["oids", "otheridstart"],
    ["lkGBxkCAVAs7DB"]⟩,
  ⟨["olower", "otherlowercase"],
    ["qFAPA1PIHBeEgDA0BAhsDAvhD.BNAiBkBxVANAQMzGPwaZy8BB.weByGAhECDBibDJA2gXACCBpBBI1j2B9B"]⟩,
  ⟨["omath", "othermath"],
    [".CAxbCCAaBCBghHAbCLAgBDYBOBhCMEADBEESAEACJBADEGADBCBBCBFDDFErCECDBBBBBABECBEBERCBBABGBAG",
    "BiJDoFBBAYARA9NBMIFEFBCBDEOABACFYB5BABAdDJB2KBfJzMV_BDgBBjj1BABAEAzGABAhm1B0CBmCBBCACBCD",
    "BLBABGBgCBDCHBGBbBDBEBADGBzKCYBYBeBYBeBYBeBYBeBYBHCxBgwFDBaBBBACABJBDBABAGAEABABABCBBBAC",
    "ABABABABABBBACDBGBDBDBABJBQFCBEBQ"]⟩,
  ⟨["oupper", "otheruppercase"],
    ["grIPmaZgjzDZGZGZ"]⟩,
  ⟨["patsyn", "patternsyntax"],
    ["hBOKGaDBAaDiBGBABBBABBEAEADAXAfA44HXIOCSBJxJvWgF1TerjBgQ_DhMCEYPAtozBBlIB"]⟩,
  ⟨["patws", "patternwhitespace"],
    ["JESAkDAo8HBYB"]⟩,
  ⟨["pcm", "prependedconcatenationmark"],
    ["gwBF3GAxBAgMBwCA6.hCAPA"]⟩,
  ⟨["qmark", "quotationmark"],
    ["iBAEAjEAPA86HHZBnwDApODNChxzBD9FAEA6CB"]⟩,
  ⟨["radical"],
    ["g0LZB4CM1G"]⟩,
  ⟨["ri", "regionalindicator"],
    ["mv8DZ"]⟩,
  ⟨["sterm", "sentenceterminal"],
    ["hBAMAQApqBAzEC0FArBC2HA9BABADBlJBk3BB2YAEBlYAmGB9EBtBAFA6JBiLDiFBKBCBdC7FBhCBkdAXBJCvlDC",
    "yJANAWBtNA8ndAuIBjHADA.LB2CB_CA4EBzECwEB5HAmxUACB7BADBpFAMAQAhCA03CB9nBEsBD9FB1DD_DChEBG",
    "AQB4CBBBsDAqJB1DB1LBFOpDB5HClQABA7HB3CBkNB0VBqCBp5SBlEAhCBLApRBoJAmwTAovHA"]⟩,
  ⟨["sd", "softdotted"],
    ["pDBkGA5IAeA0BAUAgKAiDABApoGAzBANADAkEA9EAlNA2GBy5CAl9pDByBByBByBByBByBByBByBByBByBByBByB",
    "ByBBmkCAxJBaA"]⟩,
  ⟨["term", "terminalpunctuation"],
    ["hBAKABALBDA.ZAIAhQA5BAoCAOABC0FArBKBArHB2BFBHfAlIB0nBBsFAEF3JB1YHlYA8DCnCB9ECDAnBDCB6JBi",
    "LDiFBKBBCdC7FE.BBkdAXBJCvlDCyJANAEAKABBDBsNB7ndBtICjHE.LB2CB_CA3ECzEC_DAQB5HAmxUACB5BCBD",
    "pFAKABALBDAhCACA6hBAwBAmkBAnGA2JB4EFkCF5CD4dEsBD9FGwDD_DChEBGAQB4CEsDAqJB1DCMBmLDDOpDB5H",
    "ClQABA7HB3CBEB.MCtBAlUBqCBrpBE5vRBlEAhCCKApRBnJBmwTAnvHD"]⟩,
  ⟨["uideo", "unifiedideograph"],
    ["ggN_tGgC_vUuwWBBABBKABABBCC2uhC_2pBgB5hEG9GCh0FOwpHPtTitEq6EF_iE"]⟩,
  ⟨["upper", "uppercase"],
    ["hCZlDWBGhBABABABABABABABABABABABABABABABABABABABABABABABABABABABACABABABABABABABACABABAB",
    "ABABABABABABABABABABABABABABABABABABABABBBABADBBABBBCCDBBBCDBBBBABABBBACABBBCBABBDAHACAC",
    "ACABABABABABABABACABABABABABABABABACACABCBABABABABABABABABABABABABABABABABABABABABABABAB",
    "ABABABABABAHBBBCABDBABABABAhJABADAIAGABCBABBBQBIjBACCDABABABABABABABABABABABAFACABBCyBwB",
    "ABABABABABABABABABABABABABABABABAJABABABABABABABABABABABABABABABABABABABABABABABABABABAB",
    "BBABABABABABACABABABABABABABABABABABABABABABABABABABABABABABABABABABABABABABABABABABABAB",
    "ABABABABABABABABABABAClBp6ClBBAFAyW1CzkCAGqBCCgKABABABABABABABABABABABABABABABABABABABAB",
    "ABABABABABABABABABABABABABABABABABABABABABABABABABABABABABABABABABABABABABABABABABABABAB",
    "ABABABABABABABABABABAJABABABABABABABABABABABABABABABABABABABABABABABABABABABABABABABABAB",
    "ABABABABABABABABABABABABABABABAJHIFKHIHIFLABABABAIHoCDMDMDMELDmIAEADCCCCADEGABABABDCDKBF",
    "AaPTAyZZw5BvBwBABCCABABABDBACAICBABABABABABABABABABABABABABABABABABABABABABABABABABABABA",
    "BABABABABABABABABABABABABABABABABABABABABAIABAEAtqeABABABABABABABABABABABABABABABABABABA",
    "BABABABATABABABABABABABABABABABABABAnEABABABABABABADABABABABABABABABABABABABABABABABABAB",
    "ABABABABABABABABABABABABAKABABBBABABABAEABACABADABABABABABABABABABABEBEBABABABABABABABDB",
    "ABBDAFABABABAYAr5VZlmBnBoEjB8EKBOBGBBq3ByB9EV65CfgsVfgtZZaZaZaABBCACBCDBHaZaBBDCHBGbBBDB",
    "EBADGbZaZaZaZaZaZeYhBYhBYhBYhBYhBA1pEhBugCZGZGZ"]⟩,
  ⟨["vs", "variationselector"],
    ["rgGCBAwv5BPw3gavH"]⟩,
  ⟨["wspace", "whitespace", "space"],
    ["JESAkDAaA_uFA_rCKdBFAvBAg9DA"]⟩,
  ⟨["xidc", "xidcontinue"],
    ["wBJHZEABZvBAKABACAFWBeBpOELOEHABAR0DBBDCBAGEBABTByCBqEBEClFBlBCAGoBIsBBABBBBBAIaEDdKFpCE",
    "lDBHCJBSCAQ6BCkDO1BEACACtBSbEKFXBFIqCBgECJBSBHCBCVBGBADDCICBCDIAEBBECLKABACCBFEBCVBGBBBB",
    "BBCABEEBCCDAHDBAHPLCBIBCBVBGBBBECJBCBCCAPDCJJGBCBHCBCVBGBBBECICBCCHCEBBECJBAQBBFDCBDDBBA",
    "BBDBDCDLEEDCBDCAGAOJQMBCBWBPCIBCBDHBBCCACDCJQDBHBCBWBJBECIBCBDHBGBBDCJBCMMBCByBBCBEFDHEC",
    "JKFBCBRDXBIBACGDAEFBABHGJCBN5BFOBJnBBBABEBXBABWCEBABGBJCDgBAXBGJLABABAEJBjBETBRBjBJA5BpC",
    "GtCClBBAFACqBBsKBDCGBABDCoBBDCgBBDCGBABDCOB4BBDCiCCCJIOPQ1CCFDrTCQBZFqCDKHVJVLTMMBCBBMzC",
    "DAEBCJhBCBKG4CHqBFlCKeBLELKnBCELrBEZGKlBbE.BBcCKGJNAINBPxBsCDJRIMzDM3BIJDwBCKFqBCCQCBmBF",
    "1QCFClBCFCHBABABABeC0BBGBADCBGDDCFEMFCBGPBxBBTAcANAQMzBMEADLRAEACJBACFGABABABPCDFEEARoB3",
    "zCkHGIMlBBAFAC3BHAPXJGBGBGBGBGBGBGBGBflQCZOBECEE1CCBCCB.CFqBB9CRfwBPgQ_tGgCs0VjCtBCsIDbU",
    "vBEJByDlBICmDCiCCBBABHV1BEATzBMlCKJGXDABwBCjBMcDgCOKGeB2BJNCJGWDoCYCCPCEKFCFCFJGBGBqBBNG",
    "6DBBCJGj9KMWEwBkoItLCpDmBGMEFLBMBEBABBBBBrDhBqEG5GS_BC1BoBJGPQPDBYChBABADABABABAB9DTJHZE",
    "ABZK5CDFCFCFCCjBLBZBSBBBOCNiB6DlC0BoEAiEcDwBPAffNdFqBFdCjBEHBEqB9ECJGjBEjBEnBIzBMKBOBGBB",
    "BKBOBGBBDzBM2JJVKHYFBpBBIlCFCABrBBBDACWKWJehCSBBKVKZmC3BGBgCDBBFHBCBcCCEAgBcDcjBHBdZ1BKV",
    "KSNRuDoC3ByBNyBNnBIJGlBDEBW6HpBBBDBQC3BgBKAIgBfVqBUbWJmCfPJ7BHANYHJG0BBJEDIjBCAJkCEDBMBA",
    "jBRBkBGD.BGBABDBOBJH6BFJGDBHCBCVBGBBBEBJCBCCCAGAFGCGDELJBACABlBBJBACABDBHNBdqCFJEDelCBAI",
    "JmF1BCIXFiBgCDALJmB4BHJGTcaCOEJGG5F6BlDpCVHCACHBBBdBBCIMJmCHCtBCHBBb.BIAIpCDASoCnGgBPJGI",
    "BsBBIPJYdCVBNpCGBBBrBDABBBIIJGFBBBkBBBBFHJ2JWJQBoBDENK1CAvC5cmDuDRjGsyCgDPvhBQVK68DFmS51",
    "G5Bm2B4RHeBJGuCBJGdCEL2BJDMJJUFSwNsBDJmG_BgEqCE4BHQgCBBBLBO3_FI1mBpBJn3IDBGBBBiJPAdCCAOD",
    "IrMkoCqDFMDIHJDBxiEJmQtBCW.QEDFIHCGeD0EC7N0CBmCBBCACBCDBLBABGBgCBDCHBGBbBDBEBADGBzKCYBYB",
    "eBYBeBYBeBYBeBYBHCxBgQ2BExBIAOAWEBOwiBeGF1GGBQCGBBBEF9BhBAwDsBDNCJEAhKeR5B2OpB2GqBlPGBDB",
    "BBOBkGLGpBrCEJmlBDBaBBBACABJBDBABAGAEABABABCBBBACABABABABABBBACDBGBDBDBABJBQFCBEBQ0pDJmg",
    "B_2pBgB5hEG9GCh0FOwpHPtTitC9QivBq6EF_iEwq3VvH"]⟩,
  ⟨["xids", "xidstart"],
    ["hCZGZvBAKAEAFWBeBpOELOEHABAhEEBBDCBAGABCBABTByCBqEIlFBlBCAGoBnCaEDtBqBjBBBiDBAPBHBKCCAQA",
    "Bdd4CLAYgBJBEAFVEAJADAXYHKFXBFRpB6B1BDASAHJPPEHCBCVBGBADDDAQANBBCOBKAIFEBCVBGBBBBBBfDBAT",
    "CQIBCBVBGBBBEDASAPBXALHCBCVBGBBBEDAeBBCPARABFDCBDDBBABBDBDCDLWA0BHBCBWBPDAaCCACBeAEHBCBW",
    "BJBEDAfBBBPBRIBCBoBCAQAFCICYFFRDXBIBACG6BvBBANG6BBBABEBXBABJBAKACEBAVDgBA_BHBjBbEzDqBUAQ",
    "FEDDADBHCEMMARlBBAFACqBBsKBDCGBABDCoBBDCgBBDCGBABDCOB4BBDCiClBPQ1CCFDrTCQBZFqCDKHRNSOROM",
    "BCPzBjBAEAjC4CHoBBAFlCKexBdCELrBEZ2BWJ0ByCA9CuBRH2BdNBKrBajBpBCKjBCKFqBCCpBDBFBBDAF_FgC1",
    "ICFClBCFCHBABABABeC0BBGBADCBGDDCFEMFCBG0DANAQMlDAEACJBACFGABABABPCDFEEARoB3zCkHGDDBMlBBA",
    "FAC3BHAQWJGBGBGBGBGBGBGBGmRCZIHECEE1CGCB5CBDFqBB9CRfwBPgQ_tGgCs0VjCtBCsIDPKBUuBQeCvCnBIC",
    "mDCiCCBBABHVPBCBDBWdzBOxB.BFDABBLbKWZcHuBcAQEBJKEBoBXCBHUWDADxBBADBCECABAYCCKHCMFCFCFJGB",
    "GBqBBNGyDdj9KMWEwBkoItLCpDmBGMEFABJBMBEBABBBBBrDhBqEG5GS_BC1BoBJ3DABADABABABAB9DkBZGZL3B",
    "CeDFCFCFCCjBLBZBSBBBOCNiB6DlC0BrIcDwBvBfNdFlBKdCjBEHBEqB9ESjBEjBEnBIzBMKBOBGBBBKBOBGBBDz",
    "BM2JJVKHYFBpBBIlCFCABrBBBDACWKWJehCSBBKVKZmC3BGBgCAPDBCBcqBcDcjBHBbb1BKVKSNRuDoC3ByBNyBN",
    "jBmBbJW6HpBGBQC7BcKAIVqBRuBUbWM0B5BBCANsBgBYajBdACAIiBDAMvBODVABAjBRBYTB_BGBABDBOBJHuBmB",
    "HCBCVBGBBBEDASAMEeJBACABlBBAZABAsB0BSDUCevBUBBA4FuBpBDkBvBUA7BqBNAnCalBG5FrB0D_BfHCACHBB",
    "BXPABA.CHCmBQABAcAKnBHAVALtBTASoCnGgBfIBkBRAxBdwDGBBBlBVAZFBBBfOAnKSPABMBhB8DAvC5cmDuDRj",
    "GsyCgDPvhBRFZ68DFmS51Gdi3B4RHeRuCRdSvBQDfUFSwNsBzG_BgEqCFAiCMgCBBAc3_FI1mBpBJn3IDBGBBBiJ",
    "PAdCCAODIrMkoCqDFMDIHJm7F0CBmCBBCACBCDBLBABGBgCBDCHBGBbBDBEBADGBzKCYBYBeBYBeBYBeBYBeBYBH",
    "05BeGFlI9ByEsBKGQAhKdSrBkPbkHdCAvPGBDBBBOBkG7BjCHA0lBDBaBBBACABJBDBABAGAEABABABCBBBACABA",
    "BABABABBBACDBGBDBDBABJBQFCBEBQkqE_2pBgB5hEG9GCh0FOwpHPtTitC9QivBq6EF_iE"]⟩]

end ContainerLint.CharProperty
