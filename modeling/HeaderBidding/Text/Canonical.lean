import HeaderBidding.Text.Packed

/-!
# Canonical composition

`nfc` puts a text into Normalization Form C of Unicode 17.0: every character is replaced by its
full canonical decomposition, each run of combining characters is put in the order of their
canonical combining classes (a stable sort, starters staying in place), and then each character
is joined to the last starter before it when a primary composite of the two exists and no
character between them blocks it, that is, has class `0` or a class at least its own. Hangul
syllables are decomposed and composed by arithmetic.

The data (combining classes, full decompositions, primary composites) is packed in the manner of
`Text.Packed`:

- combining classes as runs `(gap, class)`;
- decompositions as `(gap, count, offsets…)`, the offsets signed and counted from the character
  decomposed;
- composites as `(gap, second, offset)` over the first characters in order, the composite
  counted from the first character.
-/

namespace HeaderBidding.Text

/-! ### Data -/

/-- The packed runs of canonical combining classes. -/
def combiningClassText : String :=
  "AAgYmHVoHB8GEoHB4GB8GFqGC8GEqGC8GLBF8GEmHDACmHBACwHBmHB8GDmHD8GCABmHD8GEmHBoHB8GCmHBpHBqHCpHBqHC
  pHBmHNAzImHFApI8GBmHE8GBmHD+GB8GBmHG8GGmHC8GBmHC+GBkHBmHBKBLBMBNBOBPBQBRBSBTCUBVBWBABXBABYBZBABm
  HB8GBABSBAoCmHIeBfBgBBAwBbBcBdBeBfBgBBhBBiBBmHC8GCmHF8GBmHC8GBAQjBBAlDmHHACmHE8GBmHBACmHCAB8GBmH
  C8GBAjBkBBAemHB8GBmHC8GBmHC8GDmHB8GCmHB8GBmHD8GBmHB8GBmHB8GBmHB8GBmHCAgFmHH8GBmHBAJ8GBAYmHEABmHJ
  ABmHDABmHFArB8GDA7BmHC8GDmHEAqBmHF8GFmHOAB8GBmHC8GBmHC8GBmHD8GDbBcBdBmHD8GBmHC8GCmHFA8BHBAQJBADm
  HB8GBmHCAnDHBAQJBAwBmHBA9BHBAQJBAuDHBAQJBAuDHBAQJBA/DJBAuDHBAQJBAH0CB7CBAlDHBAQJBAtDJCAQJBA8DJBA
  tDnDCJBANrDEAsD2DCJBAN6DEAsC8GCAb8GBAB8GBAB4GBA3BhEBiEBABkEBAFiEEACiEBABmHCJBABmHCA+B8GBAwDHBABJ
  CAyC8GBAvWmHDA0dJCAeJBA9EJBAKmHBArGkHBAvE+GBmHB8GBA7GmHB8GBAnCJBAUmHIAC8GBAwBmHF8GGmHC8GBAB8GCmH
  C8GCmHF8GBmHS8GBACmHG8GBmHEqHBAoCHBAPJBAmBmHB8GBmHHA2BJCA6BHBALJCAjCHBA4EmHDABBB8GFmHC8GEmHBABBH
  AE8GBAGmHBADmHCAmGmHC8GBmHH8GBmHCqHB2GB8GBqGBmHlBoHBkHC8GB6GBmHBpHB8GBmHB8GBAwWmHCBCmHEBDmHCAEmH
  BADBCmHB8GBmHBBC8GEmHBA+/CmHDAtEJBAgDmHgBAqR6GBkHBoHB+GBgHCApDICA0udmHBAEmHKAgBmHCAwCmHCA0IJBAlB
  JBA3EJBAbmHSA5B8GDAlBJBA/CHBAMJBAvHmHBABmHC8GBACmHCAFmHCABmHBA0BJBA2HJBAw5TaBAhYmHH8GHmHCAte8GBA
  iH8GBA1EmHFAy0B8GBABmHBAoBmHBBB8GBAEJBAlFmHB8GBA9RmHEAhCmHFA9JmHCAtC8GCAB8GDAmC8GCmHD8GBmHB8GEAx
  BmHB8GBmHB8GBAgGJBApBJBAOJBA5BJBHBAlCmHDAwBJCA+BHBAsCJBAJHBAqDJBHBAyFHBJBAwCHCAQJBAYmHHADmHFA5CJ
  DAxDJBADHBAXmHBAjDJBHBA7HJBHBA+DJBA2DJBHBAzDJBAtIJBHBAiIJCAEHBA8EJBAzCJBASJBAxCJBAlNJBAiIHBABJCA
  xCJBApNJCAsvQJBAguCBFA7BmHHA5lBGCAslTBBAmmF4GCBDADiHB4GFAI8GIACmHF8GCAemHEA0EmHDA7tDmHHABmHRACmH
  HABmHCABmHFAkDmHBAgFmHHA3LmHBA9BmHEA8PoHC8GBmHBA+HmHB8GBAzHmHBACmHBAHmHCAFmHBA6O8GHAtDmHGHBA"

/-- The packed full canonical decompositions. -/
def decompositionText : String :=
  "gGC9HgkBBC/HgkBBChIgkBBCjIgkBBClIokBBCnIqkBCCnIgmBBClIwjBBCnIwjBBCpIwjBBCrI6jBBClIojBBCnIojBBCpI
  ojBBCrIyjBCClIkjBBClI8iBBCnI8iBBCpI8iBBCrI8iBBCtIkjBDCnIuiBBCpIuiBBCrIuiBBCtI4iBBCnIoiBDC9HgiBBC
  /HgiBBChIgiBBCjIgiBBClIoiBBCnIqiBCCnIgkBBClIwhBBCnIwhBBCpIwhBBCrI6hBBClIohBBCnIohBBCpIohBBCrIyhB
  CClIkhBBClI8gBBCnI8gBBCpI8gBBCrI8gBBCtIkhBDCnIugBBCpIugBBCrIugBBCtI4gBBCnIogBCCrIygBBC9LogBBC/Jm
  gBBChMogBBCjKmgBBClMoiBBCnKmiBBClM2fBCnK0fBCpM0fBCrKyfBCtM6fBCvK4fBCxMggBBCzK+fBCzM8fBC1K6fDC5Mk
  fBC7KifBC9MkfBC/KifBChNifBCjLgfBClNghBBCnL+gBBCpNkfBCrLifBCpNseBCrLqeBCtNweBCvLueBCxNueBCzLseBC1
  NqgBBC3LogBBC3N8dBC5L6dDC9N2dBC/L0dBChO0dBCjMydBClO0dBCnMydBCpO0fBCrMyfBCtOudECzO8cBC1M6cBC1OifB
  C3MgfCC5OwcBC7MucBC9O4eBC/M2eBChP+cBCjN8cFCpP8bBCrN6bBCtPkeBCvNieBCxPqcBCzNocEC5PwbBC7NubBC9PwbB
  C/NubBChQ2bBCjO0bDCjQ6aBClO4aBCnQidBCpOgdBCrQobBCtOmbBCtQuaBCvOsaBCxQsaBCzOqaBC1QycBC3OwcBC5Q4aB
  C7O2aBC7QqcBC9OocBC/QwaBChPuaDClR2ZBCnP0ZBCpR0ZBCrPyZBCtR0ZBCvPyZBCxR4ZBCzP2ZBC1R2ZBC3P0ZBC5RsbB
  C7PqbBC5R8YBC7P6YBC5R4YBC7P2YBC9RgZBC9RwYBC/PuYBChS4YBCjQ2YBClS+YBCnQ8YiBChV2XBCjT0XOCzV4WBC1T2W
  dC3Y+TBC5W8TBCrY6TBCtW4TBCjY2TBClW0TBC7XyTBC9VwTBD/XmT+SBDhWkT8SBDjYiT0SBDlWgTySBDnY+SmTBDpW8SkT
  BDrY6SqSBDtW4SoSCD5Z0SsSBD7XySqSBD9ZuSoSBD/XsSmSBC3RkSBC5PiSDC9ZsSBC/XqSBC5ZoSBC7XmSBC1Z8TBC3X6T
  BD5Z4TwRBD7X2TuRBCtD8RBCmK6RBCrY4REC5a6QBC7Y4QDCzawQBC1YuQBDxbgRuQBDzZ+QsQBCrTqQBCtRoQBCrSmQBCtQ
  kQBC9b+QBC/Z8QBChc+QBCja8QBC9b2QBC/Z0QBChc2QBCja0QBC9buQBC/ZsQBChcuQBCjasQBC5bmQBC7ZkQBC9bmQBC/Z
  kQBC7b+PBC9Z8PBC/b+PBCha8PBC9b2PBC/Z0PBChc2PBCja0PBCpc8QBCra6QBCrc4QBCta2QDCrd8OBCtb6OHCpeiOBCrc
  gOBCle+PBCnc8PBD1d8N0NBD3b6NyNBD5duNwNBD7bsNuNBC9dyNBC/bwNBDheuNoNBDjcsNmNBCxdkNBCzbiNtIB/DBB/DC
  B/CBC3DlEwBB1LKBl0BHC5tBnIBCWpIBB/sBBCatIBCcvIBCexICCmB1ICCuB5IBC0B7IBDyCvI9IaChBjKBCLlKBCK1KBCQ
  3KBCS5KBCU7KBDqBvK9KaChBjMBCLlMBCZ1MBCP3MBCJ5MFCBjNBCD3MsBCqB/PBCoBxPCCgBjQECB9PFCc1QBCW5QBCqBvQ
  LCBlRgBCBlTXC1B/UBC3BxUCC/BjVECB9UFCjC1VBCpC5VBC1BvVYCDtWBCDvWqCC1K1bBC3I3bOC/LzcBChK1cBCjMzcBCl
  K1cDChM/cBCjKhdDCDjdBCDldBCrMndBCtKpdBCtMrdBCvKtdDCzM7dBC1K9dBC3M3dBC5K5dBCvM7dBCxK9dDCDjeBCDleB
  C9LneBC/JpeBC1MzeBC3K1eBC5MveBC7KxeBC9MteBC/KveBC5M3eBC7K5eDC5M/eBC7KhfpJCKiDBCIiDBCoCgDBCEgDBCo
  C8C6ECqB3GCCB7GRCB9H2SCBmBICBWDCBQkBClE3BBClE5BBClE7BBC9D9BBC1D/BBC1DhCBClDjCBC/ClCsDCHZBCJWQC1D
  /BBC1DhCCC/ClC0CCBSDCEMjBClE5BBClE7BBC9D9BDClDjCqHCBcDCHZBCJWQC1D/BBC1DhC3BCDmE2BCHXBCHZBCLW8DCD
  c4DCBqBHCBcBCDcCCHPBDJRU/DCHXBCHZBCLWuECBfCCFZBDHblBBCJClLCBoHKCB0GFCBqGFCBgGFCB2FNCxC4EKCDBCCHB
  BC4DUCC2DQJCfBSCBoCKCB0BFCBqBFCBgBFCBWNCxCHtDCBQg3CCB+CCCB6CCCB2CCCByCCCBuCECBmCpBCBLCCBPDCDVBCD
  XCCBb9VC97O1tNBC/5O3tNBC/7O1vNBCh6O3vNBCj8OhuNBCl6OjuNBCn8OptNBCp6OrtNBDp8OhuNtwNBDr6OjuNvwNBCr8
  OlwNBCt6OnwNBCv8OxuNBCx6OzuNBCz8O5tNBC16O7tNBC38OxuNBC56OzuNBC78OpuNBC96OruNBD98O/wNnxNBD/6OhxNp
  xNBDh9OjxNpxNBDj7OlxNrxNBCl9O1uNBCn7O3uNBCp9OzuNBCr7O1uNBDt9OpvNrxNBDv7OrvNtxNBCv9OtxNBCx7OvxNBC
  x9O3xNBCz7O5xNBCz9O1xNBC17O3xNBC39OhwNBC57OjwNBC79O7xNBC97O9xNBC/9OhwNBCh8OjwNBCj+O3vNBCl8O5vNBC
  l+O3vNBCn8O5vNBDp+OryN5yNBDr8OtyN7yNBCp+O9yNBCr8O/yNBCt+O9wNBCv8O/wNBCx+OlwNBCz8OnwNBCz+OlxNBC18
  OnxNBD3+OpxNnzNBD58OrxNpzNBC7+OxwNBC98OzwNBC/+O9wNBCh9O/wNBCh/O5zNBCj9O7zNBCl/OxzNBCn9OzzNBCp/O9
  xNBCr9O/xNBCr/O5zNBCt9O7zNBCv/OlyNBCx9OnyNBCz/OtxNBC19OvxNBC3/O5xNBC59O7xNBD5/Ox0N10NBD79Oz0N30N
  BD9/O10Nr0NBD/9O30Nt0NBDhgP30N/0NBDj+O50Nh1NBDlgP70Nh1NBDn+O90Nj1NBCngPl1NBCp+On1NBCrgP90NBCt+O/
  0NBCrgPh1NBCt+Oj1NBCvgPtzNBCx+OvzNBDzgPxzNv1NBD1+OzzNx1NBC3gP5yNBC5+O7yNBC5gPx1NBC7+Oz1NBC9gP9zN
  BC/+O/zNBDhhPl2N51NBDj/On2N71NBDlhPz1N91NBDn/O11N/1NBDphPp0Nh2NBDr/Or0Nj2NBCrhPl2NBCt/On2NBCvhPx
  0NBCx/Oz0NBCzhP5zNBC1/O7zNBC3hPl0NBC5/On0NBC5hP70NBC7/O90NBC9hPn0NBC//Op0NBChiPx0NBCjgPz0NBDliPp
  3Nt3NBDngPr3Nv3NBDpiPr3Nj3NBDrgPt3Nl3NBCriPx3NBCtgPz3NBCviP11NBCxgP31NBCxiP/3NBCzgPh4NBC1iPh4NBC
  3gPj4NBC5iP33NBC7gP53NBC9iP93NBC/gP/3NBChjPp2NBCjhPr2NBCjjPl4NBClhPn4NBCnjPn4NBCphPp4NBCpjPt4NBC
  rhPv4NBCrjP74NBCthP94NBCvjP92NBCxhP/2NBCzjPl2NBC1hPn2NBC7iPp2NBCliP94NBChiP74NBC/hP94NCC3xOn5NFC
  9lP53NBC/jP73NBChmPx5NBCjkPz5NBDlmPj6Nl6NBDnkPl6Nn6NBDpmPn6Nr6NBDrkPp6Nt6NBDtmPr6N95NBDvkPt6N/5N
  BDxmPv6Nt6NBDzkPx6Nv6NBD1mPx4Nz6NBD3kPz4N16NBD5mPv6N56NBD7kPx6N76NBD9mPz6N/6NBD/kP16Nh7NBDhnP36N
  x6NBDjlP56Nz6NBDlnP76Nh7NBDnlP96Nj7NBDpnPl5N/6NBDrlPn5Nh7NBClnPp5NBCnlPr5NBCpnPh7NBCrlPj7NBCtnPx
  7NBCvlPz7NBDxnP37N57NBDzlP57N77NBD1nP77N/7NBD3lP97Nh8NBD5nP/7Nx7NBD7lPh8Nz7NBD9nPj8Nh8NBD/lPl8Nj
  8NBDhoPl6Nn8NBDjmPn6Np8NBC9nP97NBC/lP/7NBChoPt6NBCjmPv6NBC5nPx6NBC7lPz6NBC9nPp8NBC/lPr8NBDhoP78N
  98NBDjmP98N/8NBDloP/8Nj9NBDnmPh9Nl9NBDpoPj9N18NBDrmPl9N38NBDtoPn9Nl9NBDvmPp9Nn9NBDxoPp7Nr9NBDzmP
  r7Nt9NBD1oP97Nx9NBD3mP/7Nz9NBD5oPh8N39NBD7mPj8N59NBD9oPl8Np9NBD/mPn8Nr9NBDhpPp8N59NBDjnPr8N79NBD
  lpPt8N97NBDnnPv8N/7NBC9oPh8NBC/mPj8NBChpP59NBCjnP79NBDlpP58Nt+NBDnnP78Nv+NBDppP98Nz+NBDrnP/8N1+N
  BDtpPh9Nl+NBDvnPj9Nn+NBDxpPl9N1+NBDznPn9N3+NBD1pPp9N58NBD3nPr9N78NBCxpPj/NBCznPl/NBC1pPh9NBC3nPj
  9NBC5pP5+NBC7nP7+NBC9pPp/NBC/nPr/NHC90N5+NBC/0N5+NBDh1N9+NjgOBDj1N9+NlgOBDl1Nh/NlgOBDn1Nh/NngOBD
  p1Nl/Nn8NBDr1Nl/Np8NBCt3Np/NBCv3Np/NBDx3Nt/NzgOBDz3Nt/N1gOBD13Nx/N1gOBD33Nx/N3gOBD53N1/N38NBD73N
  1/N58NBC11N5/NBC31N5/NBD51N9/NjhOBD71N9/NlhOBD91NhgOlhOBD/1NhgOnhODCl4NpgOBCn4NpgOBDp4NtgOzhOBDr
  4NtgO1hOBDt4NxgO1hOBDv4NxgO3hODCx2N5gOBCz2N5gOBD12N9gOjiOBD32N9gOliOBD52NhhOliOBD72NhhOniOBD92Nl
  hOn+NBD/2NlhOp+NBCh5NphOBCj5NphOBDl5NthOziOBDn5NthO1iOBDp5NxhO1iOBDr5NxhO3iOBDt5N1hO3+NBDv5N1hO5
  +NBCt3N5hOBCv3N5hOBDx3N9hOjjOBDz3N9hOljOBD13NhiOljOBD33NhiOnjOBD53NliOn/NBD73NliOp/NBC95NpiOBC/5
  NpiOBDh6NtiOzjOBDj6NtiO1jOBDl6NxiO1jOBDn6NxiO3jOBDp6N1iO3/NBDr6N1iO5/NBCh4N5iOBCj4N5iOBDl4N9iOjk
  OBDn4N9iOlkOBDp4NhjOlkOBDr4NhjOnkODCx6NpjOBCz6NpjOBD16NtjOzkOBD36NtjO1kOBD56NxjO1kOBD76NxjO3kODC
  14N5jOBC34N5jOBD54N9jOjlOBD74N9jOllOBD94NhkOllOBD/4NhkOnlOBDh5NlkOnhOBDj5NlkOphOCCn7NpkOCDr7NtkO
  1lOCDv7NxkO3lOCDz7N1kO5hOBCt5N5kOBCv5N5kOBDx5N9kOjmOBDz5N9kOlmOBD15NhlOlmOBD35NhlOnmOBD55NllOniO
  BD75NllOpiOBC97NplOBC/7NplOBDh8NtlOzmOBDj8NtlO1mOBDl8NxlO1mOBDn8NxlO3mOBDp8N1lO3iOBDr8N1lO5iOBC9
  7N/mOBC/7N/mOBC57NjnOBC77NjnOBC57NnnOBC77NnnOBC57NrnOBC77NrnOBCx7NvnOBCz7NvnOBCp7NznOBCr7NznOBCl
  7N3nOBCn7N3nODD98N5mO1jOBD/8N5mO3jOBEh9N9mOjoO5jOBEj9N9mOloO7jOBEl9NhnOloO9jOBEn9NhnOnoO/jOBEp9N
  lnOnkOhkOBEr9NlnOpkOjkOBDt/NpnOlkOBDv/NpnOnkOBEx/NtnOzoOpkOBEz/NtnO1oOrkOBE1/NxnO1oOtkOBE3/NxnO3
  oOvkOBE5/N1nO3kOxkOBE7/N1nO5kOzkOBDx9N5nO1kOBDz9N5nO3kOBE19N9nOjpO5kOBE39N9nOlpO7kOBE59NhoOlpO9k
  OBE79NhoOnpO/kOBE99NloOnlOhlOBE/9NloOplOjlOBDhgOpoOllOBDjgOpoOnlOBElgOtoOzpOplOBEngOtoO1pOrlOBEp
  gOxoO1pOtlOBErgOxoO3pOvlOBEtgO1oO3lOxlOBEvgO1oO5lOzlOBDt9N5oO1lOBDv9N5oO3lOBEx9N9oOjqO5lOBEz9N9o
  OlqO7lOBE19NhpOlqO9lOBE39NhpOnqO/lOBE59NlpOnmOhmOBE79NlpOpmOjmOBD9/NppOlmOBD//NppOnmOBEhgOtpOzqO
  pmOBEjgOtpO1qOrmOBElgOxpO1qOtmOBEngOxpO3qOvmOBEpgO1pO3mOxmOBErgO1pO5mOzmOBC9/NzqOBC//N5qOBDhgOjr
  O5mOBCjgO7mOBDlgOlrO9mOCCpgOnnOBDrgOpnOjnOBCtiOjrOBCviOprOBCxiOzrOBCziOzrOBC1iOtnOCBpgODCxxP9nOB
  D1gOjsO5nOBC3gO7nOBD5gOlsO9nOCC9gOnoOBD/gOpoOjoOBCljOvsOBCnjOvsOBCljOzsOBCnjOzsOBCpjOtoOBCb5sOBC
  d5sOBCf5oOBCthOzsOBCvhO5sOBDxhOzsOjtOBDzhO1sOjtODC5hOnpOBD7hO9sOppOBC9jOjtOBC/jOptOBChkOztOBCjkO
  ztOCCiC5tOBCgC5tOBC+B5pOBC1hOztOBC3hO5tOBD5hOztOjuOBD7hO1tOjuOBCliOhtOBCniOhtOBChiOnqOBDjiO9tOpq
  OBClkOjuOBCnkOpuOBCpkOzuOBCrkOzuOBC1kOvtOBCp0P5uOBCr0P5uOBB94PDDxiOjvO5qOBCziO7qOBD1iOlvO9qOCC5i
  OnrOBD7iOprOjrOBCxlOvvOBCzlOvvOBChlOzvOBCjlOzvOBCllOtrOBBx0PDBEBBElJB53OEB9tQBCzuQhiPvDCTjmPBCRl
  mPTCzBrnPfCGppPBCMrpPBCGtpP1BCB3sPFCBhtPDCBntPYCB3uPCCB7uPbCJxwPDCB3wPDCD9wPCCBhxPXCliRvyPCCBzyP
  LC/BpzPBCjjRrzPBChjRtzPBCXvzPBCXxzPDCD3zPBCD5zPDCD/zPBCDh0PHCLv0PBCLx0PDCD30PBCD50PDCD/0PBCDh1Pj
  BCTn3PBCJp3PBCJr3PBCHt3PxBCnGv6PBCnGx6PBChFz6PBChF16PHCvDj7PBCvDl7PBCvDn7PBCvDp7P8BB+tGBB+tGy9BC
  Cn6TwrBCB6ECCB2ECCByECCBuECCBqECCBmECCBiECCB+DCCB6DCCB2DCCByDCCBuDDCBoDCCBkDCCBgDHCByCBCDyCCCBsC
  BCDsCCCBmCBCDmCCCBgCBCDgCCCB6BBCD6BXC7EKKCBJOCBlBCCBpBCCBtBCCBxBCCB1BCCB5BCCB9BCCBhCCCBlCCCBpCCC
  BtCCCBxCDCB3CCCB7CCCB/CHCBtDBCDtDCCBzDBCDzDCCB5DBCD5DCCB/DBCD/DCCBlEBCDlEXC7E1FDCP7FBCP9FBCP/FBC
  PhGECBpGigyBBvr2BBB5gpCBBvj1BBB1j2BBBljlCBBlt1CBBhyyCBB12sBBB32sBBBv7vCBBxzzBBBn4xCBBn8vCBBtxrCB
  BpqhCBBz48BBBht5BBBt14BBBzh4BBBno0BBBjxnCBBz/lCBB5jkCBBxziCBB1t6BBB96zBBBxyvBBBxp1CBBt6yCBBxhnCB
  BlwjCBBjv5BBBjwtBBBh9tCBBtzkCBBr15BBB/73BBB3lrCBB707BBBvw4BBB7ltCBBjhpCBB/7lCBB9ijCBB7l0BBBt60CB
  Bt3zCBBhlzCBB3mqCBB7lnCBBjyjCBB3khCBBlz8BBB9y5BBBzt5BBBv01BBBrgxBBBz8uBBB/ztBBB9qgCBB57/BBB559BB
  Bp36BBB1jzBBBhstBBB1m3BBBlmwCBB9jtCBBnu+BBBts8BBBnujCBB5ngCBBro2BBBjlxBBBjnwCBBxuuCBBxznCBBl3lCB
  B9jlCBB/h+BBBxx9BBBrwxBBB/nzCBBvs8BBBv3zCBBx4zCBBzz/BBBx59BBBt26BBBnuxBBBz92BBB3orCBBz1nCBB9l3BB
  Bpy1CBBv3uCBB70sCBBz9iCBBj/hCBB3kzCBBxmgCBBr60CBB57sCBBz11CBB3pmCBBh/pCBBvk+BBBv6yCBB7wwCBB3mhCB
  Bpy6BBBps3BBBr7mCBBh80BBBzumCBBpnrCBB9o7BBBp9qCBBhhiCBBxs1CBB9g0CBB/6zCBBxvoCBBnp+BBB5w7BBB1q3BB
  B96zBBBzozCBB7zyCBB7gwCBBrptCBB77pCBBr4kCBB1lgCBBx9xBBB5xvBBBhvtBBB1rtBBB9uzCBBpspCBBphnCBB1i1BB
  BzxtCBB9/rCBB/4rCBBtvqCBB9mlCBBzkkCBB1wiCBB18/BBBj69BBBvy8BBBjn1BBB1q6BBBt30BBBhlzBBBp4zCBBzvzCB
  BhuyCBBttkCBB7t4BBBtv3BBBxttCBB76sCBBxirCBBt/mCBBv2+BBBjjjCBBns1CBB/qxCBBl8uCBBh/tCBB/4sCBB1/iCB
  Bp0iCBBph9BBBz28BBB53zBBB3rxBBB1mxBBB35wBBBzi1CBBvggCBBlg0BBB/vxBBBvtsCBBnz1CBBhu0CBB78uCBB73uCB
  BpiqCBB57nCBBj/jCBB93hCBBrs6BBBt00BBBtjtBBB5zpCBBv5xBBB7zzCBB5kpCBBr9oCBBxomCBB9ylCBBl8iCBBnniCB
  Bl2gCBB9r+BBBj3wBBBnm0CBBn6rCBB11xBBBx60CBB3ruCBB3+lCBB5q1BBB5ktCBBppsCBBl8oCBBnljCBBr1xBBBn7zCB
  B98yCBBz3uCBB58pCBBlppCBBzzoCBB7vmCBB79iCBBlgiCBB5m9BBBvx4BBBtw4BBB5h0BBBvwxBBB3qzCBBjzlCBB/8yCB
  B7hkCBBt1iCBBr/5BBB70xBBB15uBBBn1tBBB5lpCBBzimCBB7g8BBB3y/BBBvt/BBBt2+BBBzzjCBBj2kCBBnq3BBB5z1CB
  Bvs7BBBp8zCBBx/zCBB11tCBB9yrCBB5y+BBB9nvCBBtumCBBj1pCBB3s1BBB374BBB37xBBB9n4BBBvztCBB3s0CBB5kyCD
  Br7wCCB75pCDBtj0CBB3ujCBB50hCBB3tgCBB1rgCBBprgCBB3ogCBBrsxBBB91+BBBhm9BCB7g6BCBzy3BDB5+0BBBxy0BE
  B1zwBBB9ywBBBnwwBBBxnuBBB/00BBBv3xBBBjo1CBBz00CBBpu0CBBz2zCBB/0zCBBnuzCBBxpyCBBhjyCBB/8xCBBx/wCB
  Bj5wCBBt9uCBB78uCBBx6sCBBrtsCBBhrsCBB7ksCBBjvqCBB/lqCBBj7pCBB97oCBB7smCBB3imCBBpylCBBztkCBB7hkCB
  BvijCBBz7gCBB7wgCBBnwgCBBrwgCBB9vgCBBzvgCBBnvgCBBpsgCBBpsgCBBnhgCBBn9/BBBrp/BBBlm+BBB9k+BBBvh+BB
  Bvu9BBBrl9BBB9m8BBBn+7BBBp+7BBBvg7BBB/04BBB1s4BBBh23BBBzy3BBBh52BBB512BBB/q1BBB9i1BBBp4xBBBzmxBB
  B9ixBBBr/sCBBkokFBBpl8BDBzk2CBB3r0CBBzw0CBBlv1CBB9y0CBBpv0CBB96zCBB53zCBB1tyCBBnyyCBBhuyCBBxpyCB
  BjixCBBz8wCBBzzwCBB1ywCBB7hwCBBx1vCBB/6tCBBz6tCBB1xtCBBvttCBB76sCBBxzsCBB/3sCBB1vsCBBzysCBBxpsCB
  BvlsCBBxsrCBBjnrCBB5jrCBBzzqCBB5hqCBB13pCBBv3pCBB7zpCBB3xnCBB3tnCBBr1mCBB57lCBB78lCBBv3lCBB5nlCB
  B7ykCBBrvhCBBxmkCBB/+jCBBr3jCBB/ijCBB35iCBBv2iCBBtoiCBBroiCBB39hCBB38hCBBn7hCBB91hCBBz2hCBB99gCB
  B1//BBB5u/BBBlj/BBBn1+BBB3r+BBBl39BBB5q9BBBh27BBBps7BBB3z5BBBp34BBBhz4BBBjy4BBBz/3BBBj83BBB/+3BB
  B173BBB973BBBh93BBBr43BBBrz3BBBx72BBBz41BBBhl1BBB1y0BBB9k0BBBzkyBBBn+xBBBj3xBBB7uxBBB1sxBBB/rxBB
  BhpxBBB17vBBBjztBBB232EBBo32EBBow8EBBpz/CBB1r9CBB1p9CBBo3rFBB0/wFBB4/hGBBp5tBBB10tBkCCn06Dx26DCC
  5y6Dv26DLCh06Dx26DBCj06Dx26DBDl06D/26D126DBDn06Dh36D126DBC716Dt36DBC916Dt36DBC/16Dn36DBC/16Dp36D
  BC/16Dr36DBC/16Dt36DBC/16Dv36DBC/16Dx36DBC/16Dz36DCC/16D336DBC/16D536DBC/16D736DBC/16D936DBC/16D
  /36DCC/16Dj46DCC/16Dn46DBC/16Dp46DCC/16Dt46DBC/16Dv46DCC/16Dz46DBC/16D146DBC/16D346DBC/16D546DBC
  /16D746DBCr36Dj56DBC136D546DBCj36D746DBCz26D946D7zCCSjshEbCT5thE21CCBgCCCB8BPCLejECGNBCGP8QCHZBC
  JW3BCBsECCBsDJCFoDDCBwD0BCFFCCJdBCLCzHCDBBCFXCCJB8HCDVBCDX9bCFPp/RCFFBCHOBCJHBCKJBCNJBDPPNBDREPB
  DTTPgiDCBBBCLDBDNFF0/YCNOBCNMBDPKcBDRIcBDTGcBDVEcBDXCc3CCDrFBCDtFBDHvF9EBDHxF/EBDLzF/EBDL1FhFgyp
  CBl80KBBx80KBBh80KBBhu7DBBnq0KBBtl0KBB1k0KBBpg0KBB74zKBB/2zKBBlyzKBB3zzKBB72hLBBl94DBBhszKBB1rzK
  BB3qzKBBzpzKBBrv5DBBz1hLBB5qzKBBvozKBB1s5DBB/nzKBBnnzKBB500KBB7mzKBBrmzKBB5jzBBBvizKBB1hzKBB/zhL
  BBp+yKBB19yKBB/6yKBB36yKBB9whLBB71yKBB51yKBBl0yKBB7yyKBBnyyKBBnyyKBBnxyKBBluyKBB3tyKBBntyKBB3ryK
  BBlryKBBjryKBBlryKBBnryKBBvg3DBBp8jKBB3myKBBvlyKBBpt2DBB7kyKBBxkyKBBpjyKBB75xKBBpgyKBBr/xKBBt9xK
  BB75xKBB10xKBBjzxKBB/uxKBBhuxKBBhsxKBBjsxKBB7qxKBB5pxKBBrpxKBBvoxKBBpzwKBBrkxKBBrzwKBB5/wKBB19wK
  BBxkzKBBl2vKBBnowKBB9lwKBBtkwKBBzswKBBniwKBBriwKBB36vKBBp3xDBBv2vKBBn2vKBBr1vKBBl0vKBB3zvKBB5vvK
  BBv7wDBBt3wDBBrnvKBBvkvKBB5jvKBB5ovKBB//uKBBx3gLBB32gLBBh2uKBB3yuKBB5yuKBBnqvDBBzquKBBrpuKBBvouK
  BB5nuKBBx1uDBBlnuKBB5muKBBhysKBBlluKBBpvgLBBthuKBBzguKBBx7tKBB5+tKBBtptDBBxztKBBtptDBB/wtKBBnxtK
  BBnwtKBB/ptKBB/ptKBBnlgLBBtotKBB5ltKBBxktKBB7htKBBrigLBBrwrDBB7ggLBB19sKBBx9sKBBt9sKBBn8sKBB5vqB
  BBj5sKBB/1qDBBh2qDBBjp7JBBj3sKBBl3sKBB98/KBB99iDBB7rrCBBtzsKBB9ysKBBv7/KBBjwsKBB/ssKBBtssKBBrqsK
  BB9hsKBBt2/KBBr4/KBB9gsKBB/8oDBB79rKBB71rKBB11rKBBz1rKBB51rKBB/yrKBB5xrKBBzvrKBBxwrKBB9vrKBBhtrK
  BB7rrKBB1rrKBBjqrKBBvprKBBtlrKBBngrKBBj+qKBBt2qKBB36mDBB33qKBB77qKBBl1qKBBxzqKBBxtqKBB5smDBB5pqK
  BB1vqKBBvxqKBBnp/KBBzlqKBBrkqKBBviqKBB9kqKBB1l/KBBx3pKBB51pKBB/rkDBBvupKBBn9oKBBnopKBBp7+KBB7jpK
  BBv8+KBB5++KBB/zzKBB7zzKBBn9oKBBxjpKBBxi8JBB7v6KBBh8oKBB77oKBBx7oKBB53oKBBx4oKBBzxiDBBp5+KBBpuoK
  BB11oKBB9ooKBB5loKBBrniDBBrloKBBrsoKBBj9nKBBz0+KBBr6nKBBr0nKBB/vnKBBlknKBBxkhDBBjhnKBBrt+KBB78mK
  BBxkgDBB55mKBBnq+KBBh4mKBBp1mKBB1zmKBB1zmKBBzm/CBB5+tDBB9/+CBB3qmKBB9j+CBB5jmKBB/imKBBtpmKBBx+lK
  BBj8lKBBz4lKBBh8lKBBz5lKBB34lKBB/3lKBBv+9CBBl9lKBBxtlKBB1plKBBt99KBB/jlKBBpklKBB3j9CBBpxlKBBh6kK
  BBj78CBBl48CBB30kKBBztkKBBrvkKBBzvkKBB/39KBB5skKBB1pkKBBjqkKBB5mkKBBr/5DBBt9jKBBzr7CBBj4jKBBn36C
  BBvvjKBB3ujKBBjtjKBB1x5CBBnqjKBB/ojKBBh/4CBBlx4CBB76iKBB75iKBB7n9KBBr4iKBBnn9KBBpn9KBBtuiKBBltiK
  BB9riKBB3qiKBBvmiKBBvh9KBB/giKBB9v2CBBv/hKBBpq2CBBv8hKBBz5rDBBzyhKBBz50CBBn40CBBxv0CBBj08KBBtz8K
  BB3khKBB7k0CBB/k0CBBzi0CBBhh0CBBtihKBBtihKBBvihKBB7/gKBB/w8KBB97gKBBpw8KBBrr8KBB/yyCBB/vgKBBlsgK
  BBnogKBB7m8KBB3yxCBB5//JBBzrxCBB/oxCBBt8/JBB32/JBBxi8KBBxx/JBB/w/JBB3w/JBB/9vCBBrrvCBBtrvCBBhn/J
  BB717KBBr7uCBB35+JBBz5+JBB5z7KBBpuuCBBnp+JBBts7KBB/n+JBBro+JBBzm+JBBp+sCBBxg+JBB3m7KBBt69JBB529J
  BB1y9JBB5j7KBBz0rCBB3yrCBB1h7KBB3prCBB3/8JBBxjrCBBl+8JBB938JBBp38JBBhqqCBBxlqCBB5x8JBBr9pCBB9w8J
  BBhijDBB366KBB/s8JBB/n8JBBx36KBBtk8JBBhtvKBB/9oCBBl9oCBBr/iDBB7+iDBBz47JBBv47JBB9+0JBBly6KBB7v7J
  BBpw7JBBnv7JBB9tzKBBju7JBBhu7JBBvt7JBB/q7JBB1lnCBBlr7JBB3n7JBBtj7JBB7+6JBBxn7JBB/96JBBt76JBBv06J
  BB5k7JBBt96JBBr96JBBt86JBB72mCBBzjmCBBhtmCBB3n6KBBtr6JBBrr6JBBnp6JBBh+iCBBvk6JBBholCBBhl6KBB7k6K
  BB9/kCBB9tkCBBtk6KBBl25JBBv15JBB705JBB505JBB7w5JBB/y5JBB1q5JBBvt5JBBjk5JBBnp5JBBjl5JBBvj5JBBv+5K
  BB994JBB/74JBBx85KBBl24JBBh24JBB71hCBB9u4JBBxu4JBBl55KBB9s4JBB9wiLBB5xgCBBrmgCBB9w5KBBtw5KBB9y3J
  BBlu3JBBtk3JBB532JBB1y+BBBxy2JBBnx2JBB1r2JBB/l2JBBxq9BBBp94DBB9g2JBB9h2JBB3+1JBB9v4DBBzw1JBBtq1J
  BB7g6BBBn/5BBB700JBBjv0JBBlt0JBBtr5BBB1s0JBB96zJBBhxzJBBhxzJBB72zJBBj/yJBBt9yJBBl/2BBBlmyJBBzl4K
  BBxjyJBBzn2BBB3g4KBB/yxJBBjkuKBBjtxJBBhr0BBB59zBBBz43KBBl43KBBzhxJBBh/yBBBz03KBBt2yBBBl/wJBBn/wJ
  BBt9wJBB1kyBBB/xwJBB/s3KBB1twJBB7lwJBBnkwJBBxgwJBBzj3KBBxtvBBBvvvJBB18uJBB9wuJBB9z2KBBhy2KBBvquJ
  BBj0sBBBxx2KBB5wsBBBpgsBBBl4rBBBz1tJBB/r2KBB7xtJBBzxtJBBnxtJBB1wtJBBpwtJBBhutJBB5hqB"

/-- The packed primary composites. -/
def compositeText : String :=
  "8B4ZkjRB4ZmiRB4ZijRDgY+HAhYgIAiYiIAjYkIAkY+LAmYiMAnYqeAoYmIApYimPAqYoIAsY4YAvY+bAxYicAjZ+lPAlZ+7
  OAoZmMBnYg8OAjZk8OAxZo8OBhYmMAiYqMAnYuMAsYyMAnZoIBnYs8OAsY0MAjZw8OAnZ48OAtZ88OAxZ08OBgYmIAhYoIAi
  YqIAjYunPAkY6MAmY+MAnYiNAoYsIApYqnPAsYqNAvY+bAxYicAjZmnPAnZmeAoZmNAtZm9OAwZq9OBnYw9OBhY6aAiYqNAk
  Yy9OAmYuNAnYyNAsY+ZAnZ2NBiY4NAnY09OAoY89OAsYsdAjZ49OAnZg+OAuZk+OBgYmIAhYoIAiYqIAjY+NAkYiOAmYmOAn
  YuOAoYsIApY+nPAsYsYAvY+bAxYicAjZioPAoZqOAwZm+OBiY0OBhYq+OAsY6ZAjZu+OAnZ2OAxZy+OBhY6OAsYiPAjZ0+OA
  nZ+OAtZg/OAxZ8+OBhYi/OAnYm/OAjZq/OBgY0aAhYqPAjYmIAnYs/OAsYyPAjZw/OAnZuPAtZ4/OAxZ0/OBgYmIAhYoIAiY
  qIAjYsIAkY6PAmY+PAnY+dAoYuIApY+nPArYiQAsYkYAvY6bAxY+bA7YiVAjZ6nPAoZ2ZBhYogPAnYsgPChYkQAnYsgPAsYs
  QAvY8bAxYgcAjZwgPAnZoQAxZ4gPBhYuQAiYyQAnY6gPAsY6QAjZ+gPAmZqcAnZ2QBnYshPAsYgRAjZwhPAmZscAnZ8QAtZ4
  hPAxZ0hPBgYoIAhYqIAiYsIAjYmRAkYqRAmYuRAoYuIApYipPAqYyRArY2RAsY8XAvY+bAxYicA7Y0VAjZ+oPAkZ6hPAoZ6R
  AtZiiPAwZ+hPBjYsiPAjZwiPBgYyiPAhY2iPAiY6RAnY+iPAoY6iPAjZijPBnYkjPAoYojPBgYypPAhYoIAiY6RAjY+pPAkY
  ydAnYqjPAoY+RApY6pPAjZ2pPBhY+RAiYsjPAnYiSAsYmSAjZwjPAxZ0jPHgY+HAhYgIAiYiIAjYkIAkYgKAmYkKAnYscAoY
  mIApYkkPAqYoIAsY6WAvYgaAxYkaAjZgkPAlZg6OAoZoKBnYi6OAjZm6OAxZq6OBhYoKAiYsKAnYwKAsY0KAnZoIBnYu6OAs
  Y2KAjZy6OAnZ66OAtZ+6OAxZ26OBgYmIAhYoIAiYqIAjYwlPAkY8KAmYgLAnYkLAoYsIApYslPAsYsLAvYgaAxYkaAjZolPA
  nZocAoZoLAtZo7OAwZs7OBnYy7OBhY8YAiYsLAkY07OAmYwLAnY0LAsYgYAnZ4LBiY6LAnY27OAoY+7OAsYubAjZ67OAnZi8
  OAuZm8OAxZ8iPBgYmIAhYoIAiYqIAjYgMAkYkMAmYoMAoYsIApYgmPAsYuWAvYgaAxYkaAjZkmPAoZsMAwZo8OBiY2MAsYsY
  BhYs8OAsY8XAjZw8OAnZ4MAxZ08OBhY8MAsYkNAjZ28OAnZgNAtZi9OAxZ+8OBhYk9OAnYo9OAjZs9OBgY2YAhYsNAjYmIAn
  Yu9OAsY0NAjZy9OAnZwNAtZ69OAxZ29OBgYmIAhYoIAiYqIAjYsIAkY8NAmYgOAnYgcAoYuIApYgmPArYkOAsYmWAvY8ZAxY
  gaA7YkTAjZ8lPAoZ4XBhYq+OAnYu+OChYmOAnYu+OAsYuOAvY+ZAxYiaAjZy+OAnZqOAxZ6+OBhYwOAiY0OAnY8+OAsY8OAj
  Zg/OAmZsaAnZ4OBnYu/OAoYmiPAsYiPAjZy/OAmZuaAnZ+OAtZ6/OAxZ2/OBgYoIAhYqIAiYsIAjYoPAkYsPAmYwPAoYuIAp
  YknPAqY0PArY4PAsY+VAvYgaAxYkaA7Y2TAjZgnPAkZ8/OAoZ8PAtZkgPAwZggPBjYugPAjZygPBgY0gPAhY4gPAiY8PAnYg
  hPAoY8gPAqYiiPAjZkhPBnYmhPAoYqhPBgY0nPAhYoIAiY8PAjYgoPAkY0bAnYshPAoYsIApY8nPAqYgiPAjZ4nPBhYgQAiY
  uhPAnYkQAsYoQAjZyhPAxZ2hPuBgYq0PAhY6tBAiayxPagYo+OAhYk+OAjYw+OApYs+OCkY0RBhYqTBhYsTAkY4RBhYi0ODg
  Ys/OAhYo/OAjY0/OApYw/OFhY+1OFgY8/OAhY4/OAjYkgPApYggPBhYu3OAkYuVAoYy3OBkYoVChYsSEgY+PAhY2PAkYyPAs
  Y6PGgYq8OAhYm8OAjYy8OApYu8OCkY2PBhYsRBhYuRAkY6PBhYkyODgYu9OAhYq9OAjY29OApYy9OFhYg0OFgY+9OAhY69OA
  jYm+OApYi+OBhYw1OAkYwTAoY01OBkYqTChYuQEgYgOAhY4NAkY0NAsY8NGgY86OAhY46OAjYk7OApYg7OBgY86OAhY46OAj
  Yk7OApYg7OPgYkwOAhYowOBgYkwOAhYowO5BgYowOAhYswOBgYowOAhYswONnY0wOBnY0wOFnYswOBnYswOHhYgxOBhYgxOB
  oYgxOBoYgxOUnY4xOhBgY4zOAhY0zOAjYg0OApY8zOAjZk0OBgY4zOAhY0zOAjYg0OApY8zOAjZk0OOgY2zOAhYyzOAjY+zO
  ApY6zOAjZi0OBgY2zOAhYyzOAjY+zOApY6zOAjZi0OHsYuDzBkYEBkYE7BkYrEBkYrEBmYo/NBmYo/NFkYEBkYEjDsYlK/Hg
  YyiOAhYVAkYwiOAmYuiOAzYu3NA0Yw3NAla2iOEgYmjOAhYZAzYm4NA0Yo4NCgYmjOAhYbAzYi5NA0Yk5NAlaqjOCgYikOAh
  YdAkYgkOAmY+jOAoYiBAzY+5NA0Yg6NGgYylOAhYlBAzYy6NA0Y06NC0Y2kOEgYqkOAhYtBAkYokOAmYmkOAoYMA0Yo7NEgY
  ilOAhYzBAzY+7NA0Yg8NAlamlODlawgOClashODgY+7NAhYJAkYggOAmY+/NAzY+0NA0Yg1NAiaqgOAlakgOEgY67NAhYPAz
  Y21NA0Y41NCgY67NAhYRAzYy2NA0Y02NAia+gOAla4gOCgY67NAhYTAkYwhOAmYuhOAoYiBAzYu3NA0Yw3NAia6hOGgYy7NA
  hYaAzYi4NA0Yk4NCzYmiOA0YoiOEgYq7NAhYQAkY4hOAmY2hOAoYMAzY24NA0Y44NAiaiiOEgYm7NAhYKAzYu5NA0Yw5NAia
  6iOAla0iOBgYwgOAhYzDAia6gOBgYuhOAhY1BAia4hODlasiOEhYCAoYE0BoYCKmYgMAoYkMDhYfCgYpBAmYiMAoYnBBmY2K
  AoYsMBoYuMBgYVAkY0MAmYCAoY4MChYbEoYwMFkY2MAmYpBAoY6MArY+MEoY6MEoY6MCoY+LDmYiKAoYmKDhYgCCgY2BAmYk
  KAoY4BBmY4IAoYuKBoYwKBgYqCAkY2KAmYCAoY6KChYkCEoYyKFkY4KAmY2BAoY8KArYgLEoY8KEoY8KCoYgKJoYCevYEBvY
  EjDoYEBoYEPoYEBoYE+JzyBJA0yBHA1yBDhB0yBnCC0yBnC3D0yBCR0yBCD0yBpBzS8pCCI8pCCD8pCC0E+tCIA3uCKgM+5C
  IA26CCA36CKrC3+CE0B+9CIA3+CMB+9CI/D2iDE5D1mDCHimDIA1mDCA2mDEE1mDC8D+pDIA3qDMB+pDIyEquDCAvuDGA/uD
  KDquDCpSuhECg3C15GCC15GCC15GCC15GCC15GCE15GCpB15GCC15GCC15GEB15GED15GC0XkYEBkYEjBkYEBkYEHnYMBnYM
  9BiYYAmYsBBiYYAmYsBXiYcBiYcTiYYBiYYzBgYEAhYIAiaMAlagIBgYEAhYIAiaMAlagIBlagIBlagIBlagIBlagIBlagIB
  lagIBgYEAhYIAiaMAlagIBgYEAhYIAiaMAlagIBlagIBlagIBlagIBlagIBlagIBlagIBgYEAhYIBgYEAhYIHgYEAhYIBgYE
  AhYIHgYEAhYIAiaMAlagHBgYEAhYIAiaMAlagHBlagHBlagHBlagHBlagHBlagHBlagHBgYEAhYIAiaMAlagHBgYEAhYIAia
  MAlagHBlagHBlagHBlagHBlagHBlagHBlagHBgYEAhYIAiaMBgYEAhYIAiaMHgYEAhYIAiaMBgYEAhYIAiaMHgYEAhYIBgYE
  AhYIHgYEAhYIBgYEAhYIHgYEAhYIAiaMBgYEAhYIAiaMIgYEAhYIAiaMHgYEAhYIAiaMAlagEBgYEAhYIAiaMAlagEBlagEB
  lagEBlagEBlagEBlagEBlagEBgYEAhYIAiaMAlagEBgYEAhYIAiaMAlagEBlagEBlagEBlagEBlagEBlagEBlagEBlakEEla
  8EIlasH6BlaCJgYcAhYeAiagBHlaCwBlaCIgYhCAhY/BAia9ByM4ZUC4ZSC4Z0B8B4ZFC4ZFC4ZLvB4ZCF4ZCD4ZCY4ZCC4Z
  CX4ZKH4ZCC4ZED4ZCF4ZgCU4ZCD4ZYB4ZYN4ZEB4ZED4ZEB4ZED4ZMB4ZMB4ZoGB4ZoGF4ZEB4ZED4ZEB4ZEK4ZiFB4ZiFQ4
  ZUG4ZKB4ZKC4ZIH4ZwDB4ZwDB4ZwDB4ZwDxsD5kM8EF5kMCC5kMCC5kMCC5kMCC5kMCC5kMCC5kMCC5kMCC5kMCC5kMCC5kM
  CC5kMCD5kMCC5kMCC5kMCH5kMCA6kMED5kMCA6kMED5kMCA6kMED5kMCA6kMED5kMCA6kMEiB5kMCJ5kM8EF5kMCC5kMCC5k
  MCC5kMCC5kMCC5kMCC5kMCC5kMCC5kMCC5kMCC5kMCC5kMCD5kMCC5kMCC5kMCH5kMCA6kMED5kMCA6kMED5kMCA6kMED5kM
  CA6kMED5kMCA6kMEU5kMQB5kMQB5kMQB5kMQL5kMC1m1BnYRInYU/1C6lkCCC6lkCCK6lkCMsEnpkCFBnpkCF1Q+5kCIA36k
  CK7Bp+kCCC79kCCHi+kCGFp+kCCyB49kCKAi+kCGAp+kCM3HwllCGA6llCEA9llCK/HvtlCEBvtlCE8bwpmCGp/R+o4CGA/o
  4CKAgp4COApp4CID/o4CKAgp4COB/o4CKH/o4CJ6hDnr7CMEnr7CCCnr7CC"

/-- The canonical combining classes, as runs. -/
def combiningClassRuns : Runs :=
  Runs.ofNumbers (unpack combiningClassText).toList

/-- The canonical combining class of a code point. -/
def combiningClass (n : Nat) : Nat :=
  if n < 0x300 then 0 else combiningClassRuns.valueAt n

/-- Code points in order, each with its full decomposition. -/
structure Decompositions where
  keys : Array Nat
  parts : Array (List Nat)
  deriving Inhabited

/-- Reads packed decompositions after those read; `last` is the code point read last. -/
def Decompositions.read : List Nat → Nat → Decompositions → Decompositions
  | gap :: count :: rest, last, acc =>
    let n := last + gap
    Decompositions.read (rest.drop count) n
      ⟨acc.keys.push n, acc.parts.push ((rest.take count).map fun d => offsetBy n (unzigzag d))⟩
  | _, _, acc => acc
termination_by l => l.length
decreasing_by simp only [List.length_drop, List.length_cons]; omega

/-- The full canonical decompositions of the characters that have one, Hangul syllables aside. -/
def decompositions : Decompositions :=
  Decompositions.read (unpack decompositionText).toList 0 ⟨#[], #[]⟩

/-- Pairs of code points, keyed as `first * 0x110000 + second` in order, with the primary
composite of each. -/
structure Composites where
  keys : Array Nat
  composites : Array Nat
  deriving Inhabited

/-- Reads packed composites after those read; `last` is the first character read last. -/
def Composites.read : List Nat → Nat → Composites → Composites
  | gap :: second :: offset :: rest, last, acc =>
    let first := last + gap
    Composites.read rest first
      ⟨acc.keys.push (first * 0x110000 + second),
        acc.composites.push (offsetBy first (unzigzag offset))⟩
  | _, _, acc => acc

/-- The primary composites that are not Hangul syllables. -/
def composites : Composites :=
  Composites.read (unpack compositeText).toList 0 ⟨#[], #[]⟩

/-! ### Hangul syllables -/

/-- The first Hangul syllable. -/
def syllableBase : Nat := 0xAC00

/-- The first leading consonant jamo. -/
def leadBase : Nat := 0x1100
/-- The first vowel jamo. -/
def vowelBase : Nat := 0x1161
/-- One before the first trailing consonant jamo. -/
def trailBase : Nat := 0x11A7

/-- The number of vowel jamo. -/
def vowelCount : Nat := 21
/-- The number of trailing consonants, none included. -/
def trailCount : Nat := 28
/-- The number of Hangul syllables. -/
def syllableCount : Nat := 11172

/-- Whether a code point is a Hangul syllable. -/
def isSyllable (n : Nat) : Bool :=
  syllableBase ≤ n && n < syllableBase + syllableCount

/-! ### Normalization -/

/-- The full canonical decomposition of a code point. Nothing before `U+00C0` decomposes. -/
def decompose (n : Nat) : List Nat :=
  if n < 0xC0 then [n]
  else if isSyllable n then
    let s := n - syllableBase
    let lead := leadBase + s / (vowelCount * trailCount)
    let vowel := vowelBase + s % (vowelCount * trailCount) / trailCount
    let trail := s % trailCount
    if trail = 0 then [lead, vowel] else [lead, vowel, trailBase + trail]
  else
    match indexIn? decompositions.keys n with
    | some i => decompositions.parts.getD i [n]
    | none => [n]

/-- Inserts a combining character into a run sorted by class, after those of its class. -/
def insertByClass (n : Nat) : List Nat → List Nat
  | [] => [n]
  | m :: rest => if combiningClass n < combiningClass m then n :: m :: rest
    else m :: insertByClass n rest

/-- Puts each run of combining characters in canonical order; `run` is the run being gathered,
in order. -/
def canonicalOrder : List Nat → List Nat → List Nat
  | [], run => run
  | n :: rest, run =>
    if combiningClass n = 0 then run ++ n :: canonicalOrder rest []
    else canonicalOrder rest (insertByClass n run)

/-- The primary composite of two code points, if there is one. No character before `U+0300`
composes with one before it. -/
def composePair (a b : Nat) : Option Nat :=
  if b < 0x300 then none
  else if leadBase ≤ a ∧ a < leadBase + 19 ∧ vowelBase ≤ b ∧ b < vowelBase + vowelCount then
    some (syllableBase + ((a - leadBase) * vowelCount + (b - vowelBase)) * trailCount)
  else if isSyllable a ∧ (a - syllableBase) % trailCount = 0 ∧ trailBase < b ∧
      b < trailBase + trailCount then
    some (a + (b - trailBase))
  else (indexIn? composites.keys (a * 0x110000 + b)).map fun i => composites.composites.getD i 0

/-- One step of composition: `out` is the text composed so far and `starter` the position in it
of the last starter. -/
def composeStep (state : Array Nat × Option Nat) (n : Nat) : Array Nat × Option Nat :=
  let (out, starter) := state
  let cls := combiningClass n
  let joined := match starter with
    | some s =>
      if out.size = s + 1 ∨ combiningClass (out.getD (out.size - 1) 0) < cls then
        (composePair (out.getD s 0) n).map fun p => out.set! s p
      else none
    | none => none
  match joined with
  | some out => (out, starter)
  | none => (out.push n, if cls = 0 then some out.size else starter)

/-- Canonical composition of a text in canonical order. -/
def composeAll (ns : List Nat) : List Nat :=
  (ns.foldl composeStep (#[], none)).1.toList

/-- A text in Normalization Form C. -/
def nfc (cs : List Char) : List Char :=
  (composeAll (canonicalOrder (cs.flatMap fun c => decompose c.toNat) [])).map Char.ofNat

/-- Whether a text is in Normalization Form C. -/
def isNfc (cs : List Char) : Bool :=
  nfc cs == cs

end HeaderBidding.Text
