import ContainerLint.Text.Property.Basic

/-!
# Word boundaries

One entry for each value of the property Word_Break other than `other`.
-/

namespace ContainerLint.CharProperty

/-- The values of the property Word_Break. -/
def wordBreaks : List CharProperty := [
  ⟨["le", "aletter"],
    ["hCZGZvBAKAEAFWBeB_OGhBwDEBBCDBAGABCBABTByCBqEIlFBlBCDBABoBBAoDAsBqBjBBBiDBAPBHBKCCAQABdd",
    "4CLAYgBJBEAFVEAJADAXYHKFXBFRpB6B1BDASAHJPPEHCBCVBGBADDDAQANBBCOBKAIFEBCVBGBBBBBBfDBATCQI",
    "BCBVBGBBBEDASAPBXALHCBCVBGBBBEDAeBBCPARABFDCBDDBBABBDBDCDLWA0BHBCBWBPDAaCCACBeAEHBCBWBJB",
    "EDAfBBBPBRIBCBoBCAQAFCICYFFRDXBIBACG5JA_BHBjBbEzIlBBAFACqBBsKBDCGBABDCoBBDCgBBDCGBABDCOB",
    "4BBDCiClBPQ1CCFDrTCQBZFqCDKHRNSOROMBCvF4CHEChBBAFlCKehHWuHuBRH2BdNBKrBajBpBCKjBCKFqBCCpB",
    "DBFBBDAF_FgC1ICFClBCFCHBABABABeC0BBGBADCBGDDCFEMFCBG0DANAQMlDAEACJBADEGABABABDBKCDFEEARo",
    "BtZzB24BkHGDDBMlBBAFAC3BHAQWJGBGBGBGBGBGBGBGwCA1OA1BBoGqBB9CRfgybskBjCtBCsIDPKBUuBQeCvCY",
    "lGCBBABHVPBCBDBWdzBOxB.BFDABBLbKWZcHuBcAwBoBXCBH0EKHCMFCFCFJGBGB5BGyDdj9KMWEwBk4IGME4BhD",
    "hBqLS_BC1BoBL0DEBmEkBZGZlCeDFCFCFCCjBLBZBSBBBOCNiB6DlC0BrIcDwBvBfNdFlBKdCjBEHBEqB9ESjBEj",
    "BEnBIzBMKBOBGBBBKBOBGBBDzBM2JJVKHYFBpBBIlCFCABrBBBDACWKWJehCSBBKVKZmC3BGBgCAPDBCBcqBcDcj",
    "BHBbb1BKVKSNRuDoC3ByBNyBNjBmBbJW6HpBGBQC7BcKAIVqBRuBUbWM0B5BBCANsBgBYajBdACAIiBDAMvBODVA",
    "BAjBRBYTB_BGBABDBOBJHuBmBHCBCVBGBBBEDASAMEeJBACABlBBAZABAsB0BSDUCevBUBBA4FuBpBDkBvBUA7Bq",
    "BNAnKrB0D_BfHCACHBBBXPABA.CHCmBQABAcAKnBHAVALtBTASoCnGgBfIBkBRAxBdwDGBBBlBVAZFBBBfOAnKSP",
    "ABMBhB8DAvC5cmDuDRjGsyCgDPvhBRFZ68DFmS51Gdi3B4RHeRuCRdSvBQDfUFSwNsBzG_BgEqCFAiCMgCBBA8gT",
    "qDFMDIHJm7F0CBmCBBCACBCDBLBABGBgCBDCHBGBbBDBEBADGBzKCYBYBeBYBeBYBeBYBeBYBH05BeGFlI9ByEsB",
    "KGQAhKdSrBkPbkHdCAvPGBDBBBOBkG7BjCHA0lBDBaBBBACABJBDBABAGAEABABABCBBBACABABABABABBBACDBG",
    "BDBDBABJBQFCBEBQ0TZGZGZ"]⟩,
  ⟨["cr"],
    ["NA"]⟩,
  ⟨["dq", "doublequote"],
    ["iBA"]⟩,
  ⟨["extend"],
    ["gYvDzIGnIsBBABBBBBAoCKwBUQAlDGCFCBBDjBAea7CK6BIJAYDBIBCBErBC7BIqBXBgB2BCBRBGKBdC4BABGCBC",
    "CJAKBaACC4BABEEBCCDAeBDALC4BABHBCBCUBWFBC4BABGCBCCHCKBeA7BEDCBDJAoBE3BABGBCBDHBLBdC4BABG",
    "BCBDHBLBPAMD3BBBGBCBDJAKBdCmCAEFBABHSB9BACGMHiDACILGpCBbABABAEBxBTBBFKBjBJAkDTXDECBCCGDD",
    "NLBAKD_VCydDcCdBeBgCfJAtBCBA1DBiBA2DLEL7GE5BJBcCAwBexBEvBQmBIMCeM4BNwBT4ECBUEAGACCmG_BsQ",
    "AjGgB._CCtEAgDfqRFpDB0udDBJgBBwCBwIADAEAXEEAzCByBRaRNAmBHZMsBDvBNkBAjCNMAIBtBCyBABCCBFBB",
    "ApBEFBsHHBBw5TAhXPQPuLB9SAiHA1EEm0BCBBFDoBCEAlFB9RDhCE9JBvCDmCKxBD6DC1BOpBACBKDtBKHA9BCk",
    "BNQBsBAMCwBNIDBB8CLGACA9ELVD3BBBGCBCCJAKBCGDEjCIBACABDBEBAOByCRXAxCTrHGCIbByCQqDMlDOgIO1",
    "HFBBCDBABBtEGCGDAcJoBGBDIAJKuBP1MHBHyCVBN6DFDABBBGBAiCEBBBE7KDJBBAwBGDEXAlnFAGOomLRguCE7",
    "BG4gBAB2BHDxCALBrlTBhzEtBCW.QEDFIHCGeD0EC79B2BExBIAOAWEBOwqBGBQCGBBBEkDAgFG3LA9BD8PD.HBg",
    "XGtDGw1CEghjY_CgEvH"]⟩,
  ⟨["ex", "extendnumlet"],
    ["_CAv.HAPBTA.u3BBYCvHA"]⟩,
  ⟨["fo", "format"],
    ["tFAyqBFWAgGAxBAgMBwCAr5DA__BBaExBEBJv03BA5HChmEAPAi7IPgjiBDvmFHm0rYA"]⟩,
  ⟨["hl", "hebrewletter"],
    ["wuBaEDqp9BABJBMBEBABBBBBJ"]⟩,
  ⟨["ka", "katakana"],
    ["xhMElDBD6CBDwHPwGuBB3CugzB3ByisBDBGBBBA_ICyBAOD"]⟩,
  ⟨["lf"],
    ["KA"]⟩,
  ⟨["ml", "midletter"],
    ["6BA8DAvWA3OA0EAyxGArv3BAhCAkGA"]⟩,
  ⟨["mn", "midnum"],
    ["sBAOAiaAqQAiEB.CArMAriGAru3BADA7BADA3FAOA"]⟩,
  ⟨["mb", "midnumlet"],
    ["uBAp_HBKAtx3BA0FAGA"]⟩,
  ⟨["nl", "newline"],
    ["LB4DAi9HB"]⟩,
  ⟨["nu", "numeric"],
    ["wBJmxBJBAkEJmGJ8MJ2DJ2DJ2DJ2DJ2DJ2DJ2DJ2DJ2DJgDJ2DJmCJ2IJmCJm6BJmBJsJJgEJmFJGJ2FJ2CJmEJG",
    "JmuiBJmVJmBJmGJWJ2CJ2MJ24UJmsBJmkCJGJ8YJgEJ8BJwEJ2IJ2KJ2DJ2LJmDJGTsCJmNJmDJ2UJ2CJ2HJmCJm",
    "NJ2uQJmpCJ2CJmEJ2QJ27XJ02CxBgqCJmNJ2PJ3HJ1aJ20EJ"]⟩,
  ⟨["ri", "regionalindicator"],
    ["mv8DZ"]⟩,
  ⟨["sq", "singlequote"],
    ["nBA"]⟩,
  ⟨["wsegspace"],
    ["gBA_yFA_rCGBC0CAg9DA"]⟩,
  ⟨["zwj"],
    ["tgIA"]⟩]

end ContainerLint.CharProperty
