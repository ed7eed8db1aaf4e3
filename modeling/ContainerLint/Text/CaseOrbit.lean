import ContainerLint.Text.Property.Basic

/-!
# Letter case

Characters that differ in case alone form an orbit under simple case folding. `casePairs` lists
every pair of different members of an orbit; `CharSet.caseClosure` adds to a set the characters
of the orbits that it meets.
-/

namespace ContainerLint

/-- The pairs of an orbit, each coded as the distance of its first member from that of the pair
before, and the signed distance of its second member from the first. -/
def casePairCode : List String :=
    ["hCgCBgCBgCBgCBgCBgCBgCBgCBgCBgCBgCA.tQBgCBgCBgCBgCBgCBgCBgCBgCA4SBgCBgCBgCBgCBgCBgCBgCH_",
    "BB_BB_BB_BB_BB_BB_BB_BB_BB_BB_BA.rQB_BB_BB_BB_BB_BB_BB_BB_BA4QB_BB_BB_BB_BB_BB_BB_B7BuuB",
    "AuwBLgCBgCBgCBgCBgCBgCAsmQBgCBgCBgCBgCBgCBgCBgCBgCBgCBgCBgCBgCBgCBgCBgCBgCBgCCgCBgCBgCBg",
    "CBgCBgCBgCB.7OB_BB_BB_BB_BB_BB_BAskQB_BB_BB_BB_BB_BB_BB_BB_BB_BB_BB_BB_BB_BB_BB_BB_BB_BC",
    "_BB_BB_BB_BB_BB_BB_BByHBCBBBCBBBCBBBCBBBCBBBCBBBCBBBCBBBCBBBCBBBCBBBCBBBCBBBCBBBCBBBCBBB",
    "CBBBCBBBCBBBCBBBCBBBCBBBCBBBCBBDCBBBCBBBCBBCCBBBCBBBCBBBCBBBCBBBCBBBCBBBCBBCCBBBCBBBCBBB",
    "CBBBCBBBCBBBCBBBCBBBCBBBCBBBCBBBCBBBCBBBCBBBCBBBCBBBCBBBCBBBCBBBCBBBCBBBCBBBCBBBxHBCBBBC",
    "BBBCBBB3SA3QBmMBkNBCBBBCBBB8MBCBBB6MB6MBCBBC.EB0MB2MBCBBB6MB.MBiGBmNBiNBCBBBmKBikzCBmNBq",
    "NBkIBsNBCBBBCBBBCBBB0NBCBBB0NDCBBB0NBCBBByNByNBCBBBCBBB2NBCBBDCBBCwDFCAEBBACBDABBCAEBBAC",
    "BDABBCAEBBACBDABBCBBBCBBBCBBBCBBBCBBBCBBBCBBBCBBB9EBCBBBCBBBCBBBCBBBCBBBCBBBCBBBCBBBCBBC",
    "CAEBBACBDABBCBBBhGBvDBCBBBCBBBCBBBCBBBCBBBCBBBCBBBCBBBCBBBCBBBCBBBCBBBCBBBCBBBCBBBCBBBCB",
    "BBCBBBCBBBCBBBjICCBBBCBBBCBBBCBBBCBBBCBBBCBBBCBBBCBBH2iVBCBBBlKBwiVB.jVB.jVBCBBBlMBqEBuE",
    "BCBBBCBBBCBBBCBBBCBBB.hVB4hVB8hVBjNB7MC5MB5MCzMC1MB.0yCE5MB20yCC9MBu2yCBwyyCBo0yCChNBlNB",
    "o0yCBu_UBi0yCDlNC6_UBpNDrNIu.UDzNCm0yCBzNE0yyCBzNBpEBxNBxNBtEG1NLqxyCBkxyCnFoFAoHAynOrBC",
    "BBBCBBDCBBEkIBkIBkICoHHsCCqCBqCBqCCgEC.DB.DBmkOBgCBgCA8DBgCBgCBgCAgGBgCBgCBgCAyDA4FBnFAg",
    "CAqiOBgCAsFBgCBtuBAgCBgCBgCBgCBgCAsDBgCAgFC.BAgCBgCBgCBgCA.CBgCBgCBgCA63OBgCBgCBrCBpCBpC",
    "BpCBmjOB_BB_BA8BB_BB_BB_BAgEB_BB_BB_BAyBA4DBnHA_BAqgOB_BAsDB_BBtwBA_BB_BB_BB_BB_BAsBB_BA",
    "gDB9BACB_BABB_BB_BB_BAeB_BB_BB_BA61OB_BB_BB_DB9DB9DBQB7DA7BBxDAxBAmCE9CAdBrDArBBPBCBBBCB",
    "BBCBBBCBBBCBBBCBBBCBBBCBBBCBBBCBBBCBBBCBBBrFArDB_EA_CBOBnHB3FA3DAlCB_FA_DCCBBBNBCBBCjIBj",
    "IBjIBgFBgFBgFBgFBgFBgFBgFBgFBgFBgFBgFBgFBgFBgFBgFBgFBgCBgCBgCA8mMBgCBgCA6mMBgCBgCBgCBgCB",
    "gCBgCBgCBgCBgCBgCAomMBgCBgCBgCAkmMBgCAkmMAmmMBgCBgCBgCBgCBgCBgCBgCBgCA4lMBgCBgCBgCBgCBgC",
    "B_BB_BB_BA8kMB_BB_BA6kMB_BB_BB_BB_BB_BB_BB_BB_BB_BB_BAokMB_BB_BB_BAkkMB_BAkkMAmkMB_BB_BB",
    "_BB_BB_BB_BB_BB_BA4jMB_BB_BB_BB_BB_BB_EB_EB_EB_EB_EB_EB_EB_EB_EB_EB_EB_EB_EB_EB_EB_EBCBB",
    "BCAqiMBBAoiMBCBBBCBBBCBBBCBBBCBBBCBBBCBBBCBBBCBBBCBBBCBBBCBBBCBBBCBBBCBBJCBBBCBBBCBBBCBB",
    "BCBBBCBBBCBBBCBBBCBBBCBBBCBBBCBBBCBBBCBBBCBBBCBBBCBBBCBBBCBBBCBBBCBBBCBBBCBBBCBBBCBBBCBB",
    "BCBBBeBCBBBCBBBCBBBCBBBCBBBCBBBCBBBdBCBBBCBBBCBBBCBBBCBBBCBBBCBBBCBBBCBBBCBBBCBBBCBBBCBB",
    "BCBBBCBBBCBBBCBBBCBBBCBBBCBBBCBBBCBBBCBBBCBBBCBBBCBBBCBBBCBBBCBBBCBBBCBBBCBBBCBBBCBBBCBB",
    "BCBBBCBBBCBBBCBBBCBBBCBBBCBBBCBBBCBBBCBBBCBBBCBBBCBBCgDBgDBgDBgDBgDBgDBgDBgDBgDBgDBgDBgD",
    "BgDBgDBgDBgDBgDBgDBgDBgDBgDBgDBgDBgDBgDBgDBgDBgDBgDBgDBgDBgDBgDBgDBgDBgDBgDBgDL_CB_CB_CB",
    "_CB_CB_CB_CB_CB_CB_CB_CB_CB_CB_CB_CB_CB_CB_CB_CB_CB_CB_CB_CB_CB_CB_CB_CB_CB_CB_CB_CB_CB_",
    "CB_CB_CB_CB_CB_C64CgmOBgmOBgmOBgmOBgmOBgmOBgmOBgmOBgmOBgmOBgmOBgmOBgmOBgmOBgmOBgmOBgmOBg",
    "mOBgmOBgmOBgmOBgmOBgmOBgmOBgmOBgmOBgmOBgmOBgmOBgmOBgmOBgmOBgmOBgmOBgmOBgmOBgmOBgmOCgmOGg",
    "mODg8FBg8FBg8FBg8FBg8FBg8FBg8FBg8FBg8FBg8FBg8FBg8FBg8FBg8FBg8FBg8FBg8FBg8FBg8FBg8FBg8FBg",
    "8FBg8FBg8FBg8FBg8FBg8FBg8FBg8FBg8FBg8FBg8FBg8FBg8FBg8FBg8FBg8FBg8FBg8FBg8FBg8FBg8FBg8FDg",
    "8FBg8FBg8FhVg9rCBg9rCBg9rCBg9rCBg9rCBg9rCBg9rCBg9rCBg9rCBg9rCBg9rCBg9rCBg9rCBg9rCBg9rCBg",
    "9rCBg9rCBg9rCBg9rCBg9rCBg9rCBg9rCBg9rCBg9rCBg9rCBg9rCBg9rCBg9rCBg9rCBg9rCBg9rCBg9rCBg9rC",
    "Bg9rCBg9rCBg9rCBg9rCBg9rCBg9rCBg9rCBg9rCBg9rCBg9rCBg9rCBg9rCBg9rCBg9rCBg9rCBg9rCBg9rCBg9",
    "rCBg9rCBg9rCBg9rCBg9rCBg9rCBg9rCBg9rCBg9rCBg9rCBg9rCBg9rCBg9rCBg9rCBg9rCBg9rCBg9rCBg9rCB",
    "g9rCBg9rCBg9rCBg9rCBg9rCBg9rCBg9rCBg9rCBg9rCBg9rCBg9rCBg9rCBQBQBQBQBQBQDPBPBPBPBPBPjkC7m",
    "MA7kMB5mMA5kMBnmMAnkMBjmMAjkMBjmMAjkMACBlmMAlkMABB3lMA3jMBpiMAniMBk8kCAm8kCBCBBG_7FB_7FB",
    "_7FB_7FB_7FB_7FB_7FB_7FB_7FB_7FB_7FB_7FB_7FB_7FB_7FB_7FB_7FB_7FB_7FB_7FB_7FB_7FB_7FB_7FB",
    "_7FB_7FB_7FB_7FB_7FB_7FB_7FB_7FB_7FB_7FB_7FB_7FB_7FB_7FB_7FB_7FB_7FB_7FB_7FD_7FB_7FB_7F6",
    "FoglCEsuHRwjlCyDCBBBCBBBCBBBCBBBCBBBCBBBCBBBCBBBCBBBCBBBCBBBCBBBCBBBCBBBCBBBCBBBCBBBCBBB",
    "CBBBCBBBCBBBCBBBCBBBCBBBCBBBCBBBCBBBCBBBCBBBCBBBCBBBCBBBCBBBCBBBCBBBCBBBCBBBCBBBCBBBCBBB",
    "CBBBCBBBCBBBCBBBCBBBCBBBCBBBCBBBCA2DBBA0DBCBBBCBBBCBBBCBBBCBBBCBBBCBBBCBBBCBBBCBBBCBBBCB",
    "BBCBBBCBBBCBBBCBBBCBBBCBBBCBBBCBBBCBBBCBBBCBBBCBBBCBBBCBBG1DAzDD97OCCBBBCBBBCBBBCBBBCBBB",
    "CBBBCBBBCBBBCBBBCBBBCBBBCBBBCBBBCBBBCBBBCBBBCBBBCBBBCBBBCBBBCBBBCBBBCBBBCBBBCBBBCBBBCBBB",
    "CBBBCBBBCBBBCBBBCBBBCBBBCBBBCBBBCBBBCBBBCBBBCBBBCBBBCBBBCBBBCBBBCBBBCBBBCBBBCBBBCBBBQBQB",
    "QBQBQBQBQBQBPBPBPBPBPBPBPBPBQBQBQBQBQBQDPBPBPBPBPBPDQBQBQBQBQBQBQBQBPBPBPBPBPBPBPBPBQBQB",
    "QBQBQBQBQBQBPBPBPBPBPBPBPBPBQBQBQBQBQBQDPBPBPBPBPBPEQCQCQCQCPCPCPCPBQBQBQBQBQBQBQBQBPBPB",
    "PBPBPBPBPBPB0EB0EBsFBsFBsFBsFBoGBoGBgIBgIBgHBgHB8HB8HDQBQBQBQBQBQBQBQBPBPBPBPBPBPBPBPBQB",
    "QBQBQBQBQBQBQBPBPBPBPBPBPBPBPBQBQBQBQBQBQBQBQBPBPBPBPBPBPBPBPBQBQCSFPBPBzEBzEBRCxnOApiOA",
    "pgOFSFrFBrFBrFBrFBREQBQClkOFPBPBnGBnGFQBQCljOCODPBPB_GB_GBNHSF_HB_HB7HB7HBRqJ53OA51OE9tQ",
    "A9rQBrmQArkQH4Bc3BSgBBgBBgBBgBBgBBgBBgBBgBBgBBgBBgBBgBBgBBgBBgBBgBBfBfBfBfBfBfBfBfBfBfBf",
    "BfBfBfBfBfECBByZ0BB0BB0BB0BB0BB0BB0BB0BB0BB0BB0BB0BB0BB0BB0BB0BB0BB0BB0BB0BB0BB0BB0BB0BB",
    "0BB0BBzBBzBBzBBzBBzBBzBBzBBzBBzBBzBBzBBzBBzBBzBBzBBzBBzBBzBBzBBzBBzBBzBBzBBzBBzBBzB34BgD",
    "BgDBgDBgDBgDBgDBgDBgDBgDBgDBgDBgDBgDBgDBgDBgDBgDBgDBgDBgDBgDBgDBgDBgDBgDBgDBgDBgDBgDBgDB",
    "gDBgDBgDBgDBgDBgDBgDBgDBgDBgDBgDBgDBgDBgDBgDBgDBgDBgDB_CB_CB_CB_CB_CB_CB_CB_CB_CB_CB_CB_",
    "CB_CB_CB_CB_CB_CB_CB_CB_CB_CB_CB_CB_CB_CB_CB_CB_CB_CB_CB_CB_CB_CB_CB_CB_CB_CB_CB_CB_CB_C",
    "B_CB_CB_CB_CB_CB_CB_CBCBBBt_UBruHBt.UB1iVBviVBCBBBCBBBCBBB3hVB5_UB9hVB7hVCCBBCCBBI9jVB9j",
    "VBCBBBCBBBCBBBCBBBCBBBCBBBCBBBCBBBCBBBCBBBCBBBCBBBCBBBCBBBCBBBCBBBCBBBCBBBCBBBCBBBCBBBCB",
    "BBCBBBCBBBCBBBCBBBCBBBCBBBCBBBCBBBCBBBCBBBCBBBCBBBCBBBCBBBCBBBCBBBCBBBCBBBCBBBCBBBCBBBCB",
    "BBCBBBCBBBCBBBCBBBCBBBCBBICBBBCBBECBBN_lOB_lOB_lOB_lOB_lOB_lOB_lOB_lOB_lOB_lOB_lOB_lOB_l",
    "OB_lOB_lOB_lOB_lOB_lOB_lOB_lOB_lOB_lOB_lOB_lOB_lOB_lOB_lOB_lOB_lOB_lOB_lOB_lOB_lOB_lOB_l",
    "OB_lOB_lOB_lOC_lOG_lOzoeCBBBCBBBCBBBCBBBCBBBj8kCACBl8kCABBCBBBCBBBCBBBCBBBCBBBCBBBCBBBCB",
    "BBCBBBCBBBCBBBCBBBCBBBCBBBCBBBCBBBCBBTCBBBCBBBCBBBCBBBCBBBCBBBCBBBCBBBCBBBCBBBCBBBCBBBCB",
    "BBCBBnECBBBCBBBCBBBCBBBCBBBCBBBCBBDCBBBCBBBCBBBCBBBCBBBCBBBCBBBCBBBCBBBCBBBCBBBCBBBCBBBC",
    "BBBCBBBCBBBCBBBCBBBCBBBCBBBCBBBCBBBCBBBCBBBCBBBCBBBCBBBCBBBCBBBCBBBCBBKCBBBCBBBnglCBCBBB",
    "CBBBCBBBCBBBCBBECBBBvyyCDCBBBCBBBgDCCBBBCBBBCBBBCBBBCBBBCBBBCBBBCBBBCBBBCBBBn0yCB90yCB10",
    "yCBh0yCBn0yCCjxyCBzyyCBpxyCBg6BBCBBBCBBBCBBBCBBBCBBBCBBBCBBBCBBB_CBl0yCBvjlCBCBBBCBBBt2y",
    "CBCBBDCBBFCBBBCBBBCBBBhkzCZCBB9a_5Bd_8rCB_8rCB_8rCB_8rCB_8rCB_8rCB_8rCB_8rCB_8rCB_8rCB_8",
    "rCB_8rCB_8rCB_8rCB_8rCB_8rCB_8rCB_8rCB_8rCB_8rCB_8rCB_8rCB_8rCB_8rCB_8rCB_8rCB_8rCB_8rCB",
    "_8rCB_8rCB_8rCB_8rCB_8rCB_8rCB_8rCB_8rCB_8rCB_8rCB_8rCB_8rCB_8rCB_8rCB_8rCB_8rCB_8rCB_8r",
    "CB_8rCB_8rCB_8rCB_8rCB_8rCB_8rCB_8rCB_8rCB_8rCB_8rCB_8rCB_8rCB_8rCB_8rCB_8rCB_8rCB_8rCB_",
    "8rCB_8rCB_8rCB_8rCB_8rCB_8rCB_8rCB_8rCB_8rCB_8rCB_8rCB_8rCB_8rCB_8rCB_8rCB_8rCB_8rCm6TCB",
    "B7gBgCBgCBgCBgCBgCBgCBgCBgCBgCBgCBgCBgCBgCBgCBgCBgCBgCBgCBgCBgCBgCBgCBgCBgCBgCBgCH_BB_BB",
    "_BB_BB_BB_BB_BB_BB_BB_BB_BB_BB_BB_BB_BB_BB_BB_BB_BB_BB_BB_BB_BB_BB_BB_BmlBwCBwCBwCBwCBwC",
    "BwCBwCBwCBwCBwCBwCBwCBwCBwCBwCBwCBwCBwCBwCBwCBwCBwCBwCBwCBwCBwCBwCBwCBwCBwCBwCBwCBwCBwCB",
    "wCBwCBwCBwCBwCBwCBvCBvCBvCBvCBvCBvCBvCBvCBvCBvCBvCBvCBvCBvCBvCBvCBvCBvCBvCBvCBvCBvCBvCBv",
    "CBvCBvCBvCBvCBvCBvCBvCBvCBvCBvCBvCBvCBvCBvCBvCBvChDwCBwCBwCBwCBwCBwCBwCBwCBwCBwCBwCBwCBw",
    "CBwCBwCBwCBwCBwCBwCBwCBwCBwCBwCBwCBwCBwCBwCBwCBwCBwCBwCBwCBwCBwCBwCBwCFvCBvCBvCBvCBvCBvC",
    "BvCBvCBvCBvCBvCBvCBvCBvCBvCBvCBvCBvCBvCBvCBvCBvCBvCBvCBvCBvCBvCBvCBvCBvCBvCBvCBvCBvCBvCB",
    "vC1DuCBuCBuCBuCBuCBuCBuCBuCBuCBuCBuCCuCBuCBuCBuCBuCBuCBuCBuCBuCBuCBuCBuCBuCBuCBuCCuCBuCB",
    "uCBuCBuCBuCBuCCuCBuCCtCBtCBtCBtCBtCBtCBtCBtCBtCBtCBtCCtCBtCBtCBtCBtCBtCBtCBtCBtCBtCBtCBt",
    "CBtCBtCBtCCtCBtCBtCBtCBtCBtCBtCCtCBtCk2BgEBgEBgEBgEBgEBgEBgEBgEBgEBgEBgEBgEBgEBgEBgEBgEB",
    "gEBgEBgEBgEBgEBgEBgEBgEBgEBgEBgEBgEBgEBgEBgEBgEBgEBgEBgEBgEBgEBgEBgEBgEBgEBgEBgEBgEBgEBg",
    "EBgEBgEBgEBgEBgEO_DB_DB_DB_DB_DB_DB_DB_DB_DB_DB_DB_DB_DB_DB_DB_DB_DB_DB_DB_DB_DB_DB_DB_D",
    "B_DB_DB_DB_DB_DB_DB_DB_DB_DB_DB_DB_DB_DB_DB_DB_DB_DB_DB_DB_DB_DB_DB_DB_DB_DB_DB_D.CgCBgC",
    "BgCBgCBgCBgCBgCBgCBgCBgCBgCBgCBgCBgCBgCBgCBgCBgCBgCBgCBgCBgCL_BB_BB_BB_BB_BB_BB_BB_BB_BB",
    "_BB_BB_BB_BB_BB_BB_BB_BB_BB_BB_BB_BB_B74CgCBgCBgCBgCBgCBgCBgCBgCBgCBgCBgCBgCBgCBgCBgCBgC",
    "BgCBgCBgCBgCBgCBgCBgCBgCBgCBgCBgCBgCBgCBgCBgCBgCB_BB_BB_BB_BB_BB_BB_BB_BB_BB_BB_BB_BB_BB",
    "_BB_BB_BB_BB_BB_BB_BB_BB_BB_BB_BB_BB_BB_BB_BB_BB_BB_BB_BhrVgCBgCBgCBgCBgCBgCBgCBgCBgCBgC",
    "BgCBgCBgCBgCBgCBgCBgCBgCBgCBgCBgCBgCBgCBgCBgCBgCBgCBgCBgCBgCBgCBgCB_BB_BB_BB_BB_BB_BB_BB",
    "_BB_BB_BB_BB_BB_BB_BB_BB_BB_BB_BB_BB_BB_BB_BB_BB_BB_BB_BB_BB_BB_BB_BB_BB_Bh0ekCBkCBkCBkC",
    "BkCBkCBkCBkCBkCBkCBkCBkCBkCBkCBkCBkCBkCBkCBkCBkCBkCBkCBkCBkCBkCBkCBkCBkCBkCBkCBkCBkCBkCB",
    "kCBjCBjCBjCBjCBjCBjCBjCBjCBjCBjCBjCBjCBjCBjCBjCBjCBjCBjCBjCBjCBjCBjCBjCBjCBjCBjCBjCBjCBj",
    "CBjCBjCBjCBjCBjC"]

/-- Reads pairs off a list of distances, `last` being the first member of the pair before. -/
def casePairsFrom (last : Nat) : List Nat → List (Nat × Nat)
  | gap :: step :: rest =>
    let first := last + gap
    let second := if step % 2 = 0 then first + step / 2 else first - (step + 1) / 2
    (first, second) :: casePairsFrom first rest
  | _ => []

/-- All ordered pairs of different characters that differ in case alone, by first member. -/
def casePairs : List (Nat × Nat) := casePairsFrom 0 (RangeCode.numbers casePairCode)

/-- The second members of the pairs whose first member lies in one of the ranges. Both lists are
in increasing order. -/
def caseVariants (fuel : Nat) (ranges : List (Nat × Nat)) (pairs : List (Nat × Nat)) :
    List Nat :=
  match fuel with
  | 0 => []
  | fuel + 1 =>
    match ranges, pairs with
    | (lo, hi) :: rest, (a, b) :: more =>
      if a < lo then caseVariants fuel ((lo, hi) :: rest) more
      else if hi < a then caseVariants fuel rest ((a, b) :: more)
      else b :: caseVariants fuel ((lo, hi) :: rest) more
    | _, _ => []

/-- The set with all characters added that differ from a member in case alone. -/
def CharSet.caseClosure (s : CharSet) : CharSet :=
  (caseVariants (s.ranges.length + casePairs.length + 1) s.ranges casePairs).foldl
    (fun t c => t.insertRange c c) s

/-- The ASCII letters whose other case lies in the ranges. -/
def asciiCaseVariants (ranges : List (Nat × Nat)) : List Nat :=
  ((List.range 26).filter fun i => CharSet.inRanges ranges (65 + i)).map (97 + ·) ++
    ((List.range 26).filter fun i => CharSet.inRanges ranges (97 + i)).map (65 + ·)

/-- The set with the other case of each of its ASCII letters added. -/
def CharSet.asciiCaseClosure (s : CharSet) : CharSet :=
  (asciiCaseVariants s.ranges).foldl (fun t c => t.insertRange c c) s

end ContainerLint
